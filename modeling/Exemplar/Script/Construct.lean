import Exemplar.Script.Stream

/-!
# Exemplar.Script.Construct — making instances of classes

A class without a constructor of its own makes its instances as the known class at the end of its chain does. Sets and
tables take their members up one by one, so that a member that cannot be taken up ends the work at its place.
-/

namespace Exemplar.Script

variable (t : ClassTable)

/-! ## Containers -/

def wrap (c : Cls) (v : V) : Code V :=
  match c with
  | .named _ => pure v
  | .own _ => make (.scalar c v)

/-- A tuple of the class `c`. -/
def makeTuple (c : Cls) (vs : List V) : Code V :=
  if c = .named "tuple" then .step (allocTuple vs) else make (.tuple c vs)

/-- The value is an instance of just that class, and the class is one whose instances never change, so that the value
can stand for a copy of itself. -/
def isUnchangeable (c : Cls) (v : V) (s : Store) : Bool :=
  match s.objOf? v with
  | some (.tuple d _) => c == .named "tuple" && d == c
  | some (.set d true _) => c == .named "frozenset" && d == c
  | _ => false

/-- A set of the class `c` out of members with their keys. -/
def makeSetOf (c : Cls) (frozen : Bool) (found : Gathered V) : Code V :=
  .step do
    let s ← Action.get
    alloc (.set c frozen (membersOf 0 found.things.toList s))

/-- A set of the class `c`. -/
def makeSet (c : Cls) (frozen : Bool) (v : V) : Code V := do
  let s ← store
  match s.objOf? v with
  | some (.set _ _ members) => make (.set c frozen members.copy)
  | some (.dict (.named "dict") kvs) => make (.set c frozen (membersOf kvs.length (kvs.map (·.1)) s))
  | _ => do
    let found ← foldMembers t (notIterable t v) (fun found w => .step (addMember t found w)) .empty v
    makeSetOf c frozen found

/-- A table of the class `c` out of entries with their keys. -/
def makeTableOf (c : Cls) (found : Gathered (V × V)) : Code V := make (.dict c found.things.toList)

/-- Adds the entry that a pair tells, before which `i` others have come. -/
def addPair (i : Nat) (found : Gathered (V × V)) (v : V) : Code (Gathered (V × V)) := do
  let place := "dictionary update sequence element #" ++ toString i
  let parts ← orElseOn t "TypeError" (iterate t v)
    (refuse "TypeError" ("cannot convert " ++ place ++ " to a sequence"))
  match parts with
  | [k, w] => .step (addEntry t found k w)
  | parts => refuse "ValueError" (place ++ " has length " ++ toString parts.length ++ "; 2 is required")

/-- A table of the class `c` out of pairs. -/
def tableFromPairs (c : Cls) (v : V) : Code V := do
  let (_, found) ← foldMembers t (notIterable t v) (fun (acc : Nat × Gathered (V × V)) w => do
    let found ← addPair t acc.1 acc.2 w
    pure (acc.1 + 1, found)) (0, .empty) v
  makeTableOf c found

/-- The name of the member by which a value tells the keys of its items. -/
def keysMember : String := "keys"

/-- A table of the class `c` out of the items of a scope, for the keys that its helper for them tells. -/
def tableFromItems (c : Cls) (v keys : V) : Code V := do
  let answer ← callValue keys []
  let s ← store
  let refused := refuse "TypeError" (typeName t v s ++ "." ++ keysMember ++ "() returned a non-iterable (type " ++
    typeName t answer s ++ ")")
  let ks ← iterateOr t refused answer
  let found ← foldList (fun found k => do
    let w ← item t v k
    .step (addEntry t found k w)) ks .empty
  makeTableOf c found

/-- A table of the class `c` out of another one, of items or of pairs. -/
def makeTable (c : Cls) (v : V) : Code V := do
  let s ← store
  match v, classBehind? v s, s.objOf? v with
  | .scope _, _, _ => do
    let keys ← orElseOn t "AttributeError" (some <$> member t v keysMember) (pure none)
    match keys with
    | some keys => tableFromItems t c v keys
    | none => tableFromPairs t c v
  | v, some d, _ =>
    if t.isSubclass d (.named "dict") then refuse "TypeError" "unbound method dict.keys() needs an argument"
    else tableFromPairs t c v
  | _, none, some (.dict _ kvs) => make (.dict c kvs)
  | v, none, _ => tableFromPairs t c v

/-! ## Progressions and classes -/

def makeRange (args : List V) : Code V := do
  match args with
  | [] => refuse "TypeError" "range expected at least 1 argument, got 0"
  | [stop] => do
    let n ← needInt t stop
    make (.range ⟨0, n, 1⟩)
  | start :: stop :: more =>
    if 1 < more.length then
      refuse "TypeError" ("range expected at most 3 arguments, got " ++ toString args.length)
    else do
      let first ← needInt t start
      let bound ← needInt t stop
      let steps ← eachOf (needInt t) more
      let step := steps.head?.getD 1
      if step = 0 then refuse "ValueError" "range() arg 3 must not be zero"
      else make (.range ⟨first, bound, step⟩)

/-- The class of a value, or a new class, which is not gone into. -/
def makeClass (c : Cls) (args : List V) : Code V := do
  let s ← store
  let wanted := fun {α : Type} (i sort : String) (v : V) =>
    (refuse "TypeError" ("type.__new__() argument " ++ i ++ " must be " ++ sort ++ ", not " ++
      argumentType t v s) : Code α)
  match args with
  | [v] =>
    if c = .named "type" then pure (.user (.cls (classOf t v s)))
    else countRefused "type.__new__() takes exactly 3 arguments" 1
  | [name, bases, members] =>
    match s.plain name, s.objOf? bases, s.objOf? members with
    | .text _, some (.tuple _ _), some (.dict _ _) => make (.other "type")
    | .text _, some (.tuple _ _), _ => wanted "3" "dict" members
    | .text _, _, _ => wanted "2" "tuple" bases
    | _, _, _ => wanted "1" "str" name
  | _ => refuse "TypeError" "type() takes 1 or 3 arguments"

/-! ## Known classes -/

/-- What a known class makes without arguments, as an instance of `c`. A floating zero is a new one each time. -/
def makeEmpty (c : Cls) (name : String) : Code V :=
  match name with
  | "NoneType" => pure .absent
  | "object" => if c = .named "object" then make (.other "object") else make (.inst c)
  | "bool" => pure (.flag false)
  | "str" => wrap c (.text "")
  | "int" => wrap c (ofInt 0)
  | "float" => make (.scalar c zero)
  | "bytes" => wrap c (.user (.bytes []))
  | "list" => make (.list c #[])
  | "tuple" => makeTuple c []
  | "set" => make (.set c false .none)
  | "frozenset" => make (.set c true .none)
  | "dict" => make (.dict c [])
  | name => refuse "TypeError" ("cannot create '" ++ name ++ "' instances")

/-- What a known class makes out of one argument, as an instance of `c`. -/
def convert (c : Cls) (name : String) (v : V) : Code V := do
  let s ← store
  match name with
  | "bool" => pure (.flag ((surface t).holds v s))
  | "str" => (makeText t v []).bind (wrap c)
  | "int" => (makeInt t v).bind (wrap c)
  | "float" => (makeFloat t v).bind (wrap c)
  | "bytes" => (makeBytes t v []).bind (wrap c)
  | "list" => do
    let vs ← iterate t v
    make (.list c vs.toArray)
  | "tuple" => do
    let vs ← iterate t v
    makeTuple c vs
  | "set" => makeSet t c false v
  | "frozenset" => makeSet t c true v
  | "dict" => makeTable t c v
  | "NoneType" => refuse "TypeError" "NoneType takes no arguments"
  | "object" => refuse "TypeError" (t.nameOf c ++ "() takes no arguments")
  | name => refuse "TypeError" ("cannot create '" ++ name ++ "' instances")

/-- What a known class makes out of two or more arguments, as an instance of `c`. -/
def makeFromMany (c : Cls) (name : String) (v : V) (more : List V) : Code V :=
  let given := more.length + 1
  match name, more with
  | "int", [base] => (makeIntIn t v base).bind (wrap c)
  | "int", _ => countRefused "int() takes at most 2 arguments" given
  | "str", _ =>
    if 2 < more.length then countRefused "str() takes at most 3 arguments" given
    else (makeText t v more).bind (wrap c)
  | "bytes", _ =>
    if 2 < more.length then countRefused "bytes() takes at most 3 arguments" given
    else (makeBytes t v more).bind (wrap c)
  | "NoneType", _ | "object", _ => convert t c name v
  | name, _ =>
    let callee := if name = "set" ∨ name = "frozenset" then t.nameOf c else name
    refuse "TypeError" (callee ++ " expected at most 1 argument, got " ++ toString given)

/-- What a known class of that name makes, as an instance of `c`. -/
def makeKnown (c : Cls) (name : String) (args : List V) : Code V :=
  match name, args with
  | "range", args => makeRange t args
  | "type", args | "ABCMeta", args => makeClass t c args
  | "complex", args => makeComplex t c args
  | "bytearray", args => makeBuffers t c args
  | "slice", args => makeCut args
  | name, args =>
    if streamClasses.contains name then makeStream t c name args
    else if otherClasses.contains name then makeOther t name args
    else match args with
      | [] => makeEmpty c name
      | [v] => do
        let s ← store
        if isUnchangeable c v s then pure v else convert t c name v
      | v :: more => makeFromMany t c name v more

/-! ## Classes -/

/-- An instance of a class by the constructor of the known class at the end of its chain. -/
def constructNative (c : Cls) (args : List V) : Code V :=
  let base := t.nativeBase c
  if (errorParams? base).isSome then makeOwnError t c base args []
  else if t.isError c then makeKnownError t c args
  else makeKnown t c base args

/-- A new instance of a class with a constructor of its own, before that is called: a value that never changes is made
of the arguments at once, and all others are empty. -/
def bareInstance (c : Cls) (args : List V) : Code V :=
  let base := t.nativeBase c
  if t.isError c then makeBareError t c args
  else if base = "bytearray" then make (.buffer c #[])
  else if ["list", "dict", "set", "object"].contains base then makeEmpty c base
  else makeKnown t c base args

/-- The name of the instance among the parameters of a constructor. -/
def selfName : String := "a0"

end Exemplar.Script

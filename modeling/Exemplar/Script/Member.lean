import Exemplar.Declare
import Exemplar.Resolve
import Exemplar.Script.Cut

/-!
# Exemplar.Script.Member — what values consist of

Members that a value has by name, items that it has by index or key, and the members that it can be gone through for.
A scope has helpers by any of these ways: those named by the numbers from zero on are what it can be gone through for,
until one of them raises an error that ends a sequence.
-/

namespace Exemplar.Script

variable (t : ClassTable)

/-! ## Members by name -/

/-- The class whose members the value has as its own: a class itself, or one with parameters in brackets. -/
def classBehind? (v : V) (s : Store) : Option Cls :=
  match v, s.objOf? v with
  | .user (.cls c), _ => some c
  | _, some (.alias _ c _) => some c
  | _, _ => none

/-- The value lacks a member of that name; a class is called by its own name then. -/
def lacksMember {α : Type} (v : V) (name : String) : Code α := do
  let s ← store
  let owner := match classBehind? v s with
    | some c => "type object '" ++ t.nameOf c ++ "'"
    | none => "'" ++ typeName t v s ++ "' object"
  refuse "AttributeError" (owner ++ " has no attribute '" ++ name ++ "'")

/-- The members of a tuple; another value stands for one. -/
def membersIn (v : V) (s : Store) : List V :=
  match s.objOf? v with
  | some (.tuple _ vs) => vs
  | _ => [v]

/-- The expectations of a scope that have passed. -/
def successHandles (i : Nat) : Code V := do
  let verdicts ← fromScope i [] (fun _ sc => sc.successes)
  .step do
    let vs ← Surface.each (fun p => recorded (.verdict i p.2) (.verdict p.1)) verdicts.zipIdx
    allocTuple vs

def exampleHandle (i : Nat) : Code V := do
  match ← fromScope i none fun _ sc => some sc.owner with
  | some e => .step (recorded (.example e.group e.place) (.example e.description e.pendingMessage))
  | none => pure .absent

def ownMember (i : Nat) : Member → Code V
  | .successes => successHandles i
  | .resolver => pure (.user (.handle (.resolver i)))
  | .example => exampleHandle i
  | m => make (.method i m)

/-- A part that a scope keeps under a private name. -/
def privatePart? (i : Nat) (name : String) : Option (Code V) :=
  match name with
  | "_example" => some (exampleHandle i)
  | "_resolver" => some (pure (.user (.handle (.resolver i))))
  | "_successes" => some do
    let v ← successHandles i
    let s ← store
    makeList (membersIn v s)
  | "__class__" => some do
    let s ← store
    pure (.user (.cls (classOf t (.scope i) s)))
  | _ => none

/-- The member of a scope by its name. The described target of a scope that fails for the want of some member is
looked for among the helpers. -/
def scopeMember (i : Nat) (name : String) : Code V := do
  let read : Code (Access V) := .ask (.access i name)
  let found ←
    if name = Member.describedTarget.name then
      orElseOn t "AttributeError" read (Access.value <$> lookup i (.text name))
    else read
  match found with
  | .value w => pure w
  | .member m => ownMember i m

/-- What an expectation that has passed tells about itself. -/
def verdictMember (v : Verdict V) (name : String) (otherwise : Code V) : Code V :=
  match name with
  | "message" => .ask (.message v)
  | "summary" => do
    let x ← .ask (.summary v)
    pure (.text x)
  | name => ((partNamed? name (partsOfVerdict v)).map pure).getD otherwise

def member (v : V) (name : String) : Code V := do
  let s ← store
  match v, s.objOf? v with
  | .scope i, _ => (privatePart? t i name).getD (scopeMember t i name)
  | _, some (.verdict r) => verdictMember r name (lacksMember t v name)
  | _, some (.example description _) => if name = "description" then pure description else lacksMember t v name
  | _, _ => lacksMember t v name

/-! ## Going through a value -/

def characters (x : String) : List V := x.toList.map fun c => .text (String.singleton c)

/-- The members of a value that can be gone through. -/
def members? (v : V) (s : Store) : Option (List V) :=
  match s.plain v with
  | .text x => some (characters x)
  | .user (.bytes b) => some (b.map fun (n : Nat) => ofInt n)
  | v =>
    match s.objOf? v with
    | some (.list _ vs) => some vs.toList
    | some (.buffer _ b) => some (b.toList.map fun (n : Nat) => ofInt n)
    | some (.tuple _ vs) => some vs
    | some (.dict _ kvs) => some (kvs.map (·.1))
    | some (.set _ _ members) => some members.toList
    | some (.range p) => some (p.members.map ofInt)
    | _ => none

/-- The helper of a scope that is named by the number; `none` if instead an error says that there are no more. -/
def numberedHelper (scope i : Nat) : Code (Option V) := do
  match ← (lookup scope (ofInt i)).attempt with
  | .ok v => pure (some v)
  | .error e => do
    let s ← store
    if isErrorOf t e "IndexError" s || isErrorOf t e "StopIteration" s then pure none else .raise e

/-- Goes through the helpers of a scope that are named by the numbers from `i` on, up to `n` of them. -/
def foldNumbered {β : Type} (f : β → V → Code β) (scope : Nat) : Nat → Nat → β → Code β
  | 0, _, _ => .step Action.exhausted
  | n + 1, i, acc => do
    match ← numberedHelper t scope i with
    | some v => do
      let acc ← f acc v
      foldNumbered f scope n (i + 1) acc
    | none => pure acc

def foldList {β : Type} (f : β → V → Code β) : List V → β → Code β
  | [], acc => pure acc
  | v :: r, acc => do
    let acc ← f acc v
    foldList f r acc

def setStream (i : Nat) (c : Cls) (stage : Stage) (left : List (List V)) : Code Unit :=
  .step (Action.modify fun s => { s with heap := s.heap.setIfInBounds i (.stream c stage left) })

/-- The next member of a stream out of what it is made of; none where a test holds it back. -/
def streamMember (stage : Stage) (vs : List V) : Code (Option V) :=
  let first := vs.head?.getD .absent
  match stage with
  | .each => pure (some first)
  | .together => some <$> .step (allocTuple vs)
  | .mapped f => some <$> callValue f vs
  | .filtered test => do
    let answer ← if test.isAbsent then pure first else callValue test [first]
    let s ← store
    pure (if (surface t).holds answer s then some first else none)

/-- Goes through what is left of the stream at place `i` of the heap. -/
def foldStream {β : Type} (f : β → V → Code β) (i : Nat) (c : Cls) (stage : Stage) : List (List V) → β → Code β
  | [], acc => pure acc
  | vs :: r, acc => do
    setStream i c stage r
    match ← streamMember t stage vs with
    | some v => do
      let acc ← f acc v
      foldStream f i c stage r acc
    | none => foldStream f i c stage r acc

/-- How many helpers of a scope are gone through at most. -/
def mostNumberedHelpers : Nat := 10000

/-- Goes through the members of a value; `refused` answers for a value without any. -/
def foldMembers {β : Type} (refused : Code β) (f : β → V → Code β) (acc : β) (v : V) : Code β :=
  match v with
  | .scope i => foldNumbered t f i mostNumberedHelpers 0 acc
  | v => do
    let s ← store
    match members? v s, s.objOf? v with
    | some vs, _ => foldList f vs acc
    | none, some (.alias _ c params) => do
      let w ← .step (unpackedAlias c params)
      f acc w
    | none, some (.verdict r) => do
      let vs ← .step (pairsOfVerdict r)
      foldList f vs acc
    | none, some (.stream c stage left) =>
      match v with
      | .user (.ref i) => foldStream t f i c stage left acc
      | _ => refused
    | none, _ => refused

/-- Answers for a value that cannot be gone through. -/
def notIterable {α : Type} (v : V) : Code α := do
  let s ← store
  refuse "TypeError" ("'" ++ typeName t v s ++ "' object is not iterable")

/-- The members of a value; `refused` answers for a value without any. -/
def iterateOr (refused : Code (List V)) (v : V) : Code (List V) := do
  let vs ← foldMembers t (refused.bind fun vs => pure vs.reverse) (fun acc w => pure (w :: acc)) [] v
  pure vs.reverse

def iterate (v : V) : Code (List V) := iterateOr t (notIterable t v) v

def holdsItem (item container : V) : Code Bool := do
  let s ← store
  match container, s.objOf? container with
  | .scope i, _ => search i mostNumberedHelpers 0
  | v, some (.stream _ _ _) => do
    let vs ← iterate t v
    .step (among t item vs)
  | v, _ => .step (contains t item v)
where
  /-- Looks among the helpers that are named by the numbers from `i` on, up to `n` of them. -/
  search (scope : Nat) : Nat → Nat → Code Bool
    | 0, _ => .step Action.exhausted
    | n + 1, i => do
      match ← numberedHelper t scope i with
      | some v => do
        let b ← .step (agree t v item)
        if b then pure true else search scope n (i + 1)
      | none => pure false

/-! ## Items -/

/-- The member of a list at a place; a negative place counts from the end. -/
def atPlace? {α : Type} (l : List α) (n : Int) : Option α :=
  let k := if n < 0 then n + l.length else n
  if k < 0 then none else l[k.toNat]?

/-- The item at an index, which the value `i` is. -/
def atIndex (what : String) (vs : List V) (i : V) (n : Int) : Code V := do
  let s ← store
  if !fitsIndex n then
    refuse "IndexError" ("cannot fit '" ++ typeName t i s ++ "' into an index-sized integer")
  else match atPlace? vs n with
    | some v => pure v
    | none => refuse "IndexError" (what ++ " out of range")

def cutIn? (i : V) (s : Store) : Option (Code Cut) :=
  match s.objOf? i with
  | some (.cut start stop step) => some (readCut start stop step)
  | _ => none

/-- The item of a sequence, which is called `what` when it has none there, or what a cut leaves of it. -/
def itemOf (sort what : String) (vs : List V) (cut : Cut → Code V) (i : V) : Code V := do
  let s ← store
  match asInt? (s.plain i), cutIn? i s with
  | some n, _ => atIndex t what vs i n
  | none, some c => c.bind cut
  | none, none => refuse "TypeError" (sort ++ " indices must be integers or slices, not " ++ typeName t i s)

def characterOf (x : String) (i : V) : Code V := do
  let s ← store
  match asInt? (s.plain i), cutIn? i s with
  | some n, _ => atIndex t "string index" (characters x) i n
  | none, some c => c.bind fun c => pure (.text (String.ofList (c.of x.toList)))
  | none, none => refuse "TypeError" ("string indices must be integers, not '" ++ typeName t i s ++ "'")

def progressionItem (p : Progression) (i : V) : Code V := do
  let s ← store
  match asInt? (s.plain i), cutIn? i s with
  | some n, _ =>
    match p.at? (if n < 0 then n + p.length else n) with
    | some m => pure (ofInt m)
    | none => refuse "IndexError" "range object index out of range"
  | none, some c => c.bind fun c => make (.range (c.ofProgression p))
  | none, none => refuse "TypeError" ("range indices must be integers or slices, not " ++ typeName t i s)

def lacksItems (v : V) : Code V := do
  let s ← store
  let owner := match v with
    | .user (.cls c) => "type '" ++ t.nameOf c ++ "'"
    | v => "'" ++ typeName t v s ++ "' object"
  refuse "TypeError" (owner ++ " is not subscriptable")

def entryOf (kvs : List (V × V)) (i : V) : Code V := do
  let key ← .step (keyOf t i)
  match ← (.step (valueUnder? t key kvs) : Code (Option V)) with
  | some w => pure w
  | none => unknownName i

/-- The item of a value; those of a scope are its helpers, and a class takes parameters. -/
def item (v i : V) : Code V := do
  let s ← store
  match v, s.plain v, s.objOf? v with
  | .scope k, _, _ => lookup k i
  | _, .text x, _ => characterOf t x i
  | _, .user (.bytes b), _ =>
    itemOf t "byte" "index" (b.map fun (k : Nat) => ofInt k) (fun c => pure (.user (.bytes (c.of b)))) i
  | .user (.cls c), _, _ => if t.isGeneric c then make (.alias false c (membersIn i s)) else lacksItems t v
  | _, _, some (.buffer _ b) =>
    itemOf t "bytearray" "bytearray index" (b.toList.map fun (k : Nat) => ofInt k)
      (fun c => make (.buffer (.named "bytearray") (c.of b.toList).toArray)) i
  | _, _, some (.list _ vs) => itemOf t "list" "list index" vs.toList (fun c => makeList (c.of vs.toList)) i
  | _, _, some (.tuple d vs) =>
    itemOf t "tuple" "tuple index" vs
      (fun c => if d == .named "tuple" && c.isWhole vs.length then pure v else .step (allocTuple (c.of vs))) i
  | _, _, some (.range p) => progressionItem t p i
  | _, _, some (.dict _ kvs) => entryOf t kvs i
  | _, _, some (.alias _ _ _) => do
    let x ← .step (shown t v)
    refuse "TypeError" (x ++ " is not a generic class")
  | v, _, _ => lacksItems t v

def lengthOf (v : V) : Code V := do
  let s ← store
  match s.plain v, s.objOf? v with
  | .text x, _ => pure (ofInt x.length)
  | .user (.bytes b), _ => pure (ofInt b.length)
  | _, some (.list _ vs) => pure (ofInt vs.size)
  | _, some (.buffer _ b) => pure (ofInt b.size)
  | _, some (.tuple _ vs) => pure (ofInt vs.length)
  | _, some (.set _ _ members) => pure (ofInt members.count)
  | _, some (.dict _ kvs) => pure (ofInt kvs.length)
  | _, some (.range p) =>
    if fitsIndex p.length then pure (ofInt p.length)
    else refuse "OverflowError" "Python int too large to convert to C ssize_t"
  | _, _ => refuse "TypeError" ("object of type '" ++ typeName t v s ++ "' has no len()")

end Exemplar.Script

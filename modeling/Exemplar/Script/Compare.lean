import Std.Data.HashMap
import Exemplar.Script.Object
import Exemplar.Text.Quoted

/-!
# Exemplar.Script.Compare — identity, equality, keys, order and membership

Numbers compare by their exact values. Plain values are identical when their types and texts agree, objects when
they are the same object. Members of containers count as equal when they are identical or equal, so a number that
differs from itself is still found in the list that holds it.
-/

namespace Exemplar.Script

/-! ## Numbers -/

/-- A number that is neither a fraction nor comparable, or the sign of an infinite one. -/
inductive Magnitude where
  | undefined
  | infinite (negative : Bool)
  | finite (n : Int) (d : Nat)

def magnitudeOf : V → Magnitude
  | .user (.float x) =>
    if x.isNaN then .undefined
    else if x.isInf then .infinite (Decimal.isNegative x)
    else let (n, d) := Decimal.ratio x; .finite n d
  | v =>
    match asInt? v with
    | some n => .finite n 1
    | none => .undefined

/-- How two numbers compare, if they do. -/
def compareNumbers (a b : V) : Option Ordering :=
  match magnitudeOf a, magnitudeOf b with
  | .finite n d, .finite m e => some (compare (n * e) (m * d))
  | .infinite x, .infinite y => some (if x = y then .eq else if x then .lt else .gt)
  | .infinite x, .finite _ _ => some (if x then .lt else .gt)
  | .finite _ _, .infinite y => some (if y then .gt else .lt)
  | _, _ => none

/-! ## Identity -/

def identical (a b : V) : Bool :=
  match a, b with
  | .absent, .absent => true
  | .flag x, .flag y => x == y
  | .text x, .text y => x == y
  | .scope x, .scope y => x == y
  | .builder x, .builder y => x == y
  | .subjectOf x _, .subjectOf y _ => x == y
  | .outer x, .outer y => x.serial == y.serial
  | .user (.int x), .user (.int y) => x == y
  | .user (.float x), .user (.float y) => Decimal.text x == Decimal.text y
  | .user (.bytes x), .user (.bytes y) => x == y
  | .user (.cls x), .user (.cls y) => x == y
  | .user (.handle x), .user (.handle y) => x == y
  | .user (.tool x), .user (.tool y) => x == y
  | .user (.ref x), .user (.ref y) => x == y
  | _, _ => false

/-! ## Keys -/

/-- The key of a number: equal numbers have one key. -/
def numberKey (v : V) : String :=
  match v, magnitudeOf v with
  | _, .finite n d => if n % (d : Int) = 0 then "n:" ++ toString (n / (d : Int)) else
      "q:" ++ toString n ++ "/" ++ toString d
  | .user (.float x), _ => "f:" ++ Decimal.text x
  | _, _ => "f:"

/-- The key of a set whose members have these keys. -/
def setKey (keys : List String) : String :=
  "\x7b" ++ ",".intercalate (keys.mergeSort fun a b => decide (a ≤ b)) ++ "\x7d"

def classKey : Cls → String
  | .own i => "c:" ++ toString i
  | .named s => "c:" ++ s

def handleKey : Handle → String
  | .resolver i => "resolver:" ++ toString i
  | .level d => "level:" ++ d.word
  | .context c => "context:" ++ Text.quoted (c.location .developer)

/-- The key of a progression: those with the same members have one key. -/
def progressionKey (p : Progression) : String :=
  let (n, start, step) := p.signature
  "p:" ++ toString n ++ ":" ++ toString start ++ ":" ++ toString step

/-- The key of a complex number, which is at place `i` of the heap: equal numbers have one key. -/
def complexKey (i : Nat) (z : Decimal.Complex) : String :=
  let part := fun (x : Float) => numberKey (.user (.float x))
  if z.re.isNaN || z.im.isNaN then "r:" ++ toString i
  else if z.im == 0 then part z.re
  else "z:" ++ part z.re ++ "," ++ part z.im

def jointKey (keys : List String) : String := "(" ++ ",".intercalate keys ++ ")"

/-- The key under which a value is found in a table; a changeable container has none. -/
def keyTo (t : ClassTable) : Nat → V → StoreStep String
  | 0, _ => Action.exhausted
  | fuel + 1, v =>
    match v with
    | .absent => pure "None"
    | .text s => pure ("s:" ++ Text.quoted s)
    | .scope i => pure ("scope:" ++ toString i)
    | .builder i => pure ("builder:" ++ toString i)
    | .subjectOf i _ => pure ("subject:" ++ toString i)
    | .outer c => pure ("outer:" ++ toString c.serial)
    | .flag _ | .user (.int _) | .user (.float _) => pure (numberKey v)
    | .user (.bytes b) => pure (Text.quotedBytes b)
    | .user (.cls c) => pure (classKey c)
    | .user (.handle h) => pure (handleKey h)
    | .user (.tool name) => pure ("tool:" ++ name)
    | .user (.ref i) => do
      let s ← Action.get
      let refuse : StoreStep String := complain "TypeError" ("unhashable type: '" ++ typeName t v s ++ "'")
      match s.obj i with
      | .list _ _ | .dict _ _ | .set _ false _ | .buffer _ _ | .cut _ _ _ => refuse
      | .tuple _ items => do
        let ks ← Surface.each (keyTo t fuel) items
        pure (jointKey ks)
      | .set _ true members => do
        let ks ← Surface.each (keyTo t fuel) members.toList
        pure (setKey ks)
      | .scalar _ w => keyTo t fuel w
      | .complex _ z => pure (complexKey i z)
      | .range p => pure (progressionKey p)
      | .alias unpacked c items => do
        let ks ← Surface.each (keyTo t fuel) items
        pure ((if unpacked then "u" else "a") ++ classKey c ++ jointKey ks)
      | .method scope m => pure ("method:" ++ toString scope ++ ":" ++ m.name)
      | .verdict r => do
        let ks ← Surface.each (keyTo t fuel) ((partsOfVerdict r).map (·.2))
        pure ("verdict:" ++ jointKey ks)
      | _ => pure ("r:" ++ toString i)

/-- The key under which a value is found in a table. -/
def keyOf (t : ClassTable) (v : V) : StoreStep String := do
  let s ← Action.get
  keyTo t (s.heap.size + 1) v

/-- Things that have been gathered under their keys, in the order in which the keys came first; `places` tells where the
thing under a key stands. -/
structure Gathered (α : Type) where
  places : Std.HashMap String Nat
  things : Array α

namespace Gathered

variable {α : Type}

def empty : Gathered α := ⟨∅, #[]⟩

/-- Puts a thing under its key; one that is there already is changed. -/
def put (g : Gathered α) (key : String) (a : α) (change : α → α) : Gathered α :=
  match g.places[key]? with
  | some i => { g with things := g.things.modify i change }
  | none => ⟨g.places.insert key g.things.size, g.things.push a⟩

def under? (g : Gathered α) (key : String) : Option α := (g.places[key]?).bind fun i => g.things[i]?

def holds (g : Gathered α) (key : String) : Bool := g.places.contains key

end Gathered

/-- The number that tells the place of a value in a set, if it depends on nothing but the value; sequences are gone into
down to `fuel` levels. -/
def hashTo? (s : Store) : Nat → V → Option Nat
  | 0, _ => none
  | fuel + 1, v =>
    match asInt? v, v with
    | some n, _ => some (hashInt n)
    | none, .user (.float x) =>
      match magnitudeOf (.user (.float x)) with
      | .undefined => none
      | .infinite negative => some (hashInfinite negative)
      | .finite n d => some (hashQuotient n d.log2)
    | none, .user (.ref i) =>
      match s.obj i with
      | .tuple _ items => hashSequence <$> items.mapM (hashTo? s fuel)
      | .set _ true members => hashSet <$> members.toList.mapM (hashTo? s fuel)
      | .scalar _ w => hashTo? s fuel w
      | .complex _ z => do
        let re ← hashTo? s fuel (.user (.float z.re))
        let im ← hashTo? s fuel (.user (.float z.im))
        pure (hashComplex re im)
      | .range p =>
        if p.length < 2 then none
        else some (hashSequence ([(p.length : Int), p.start, p.step].map hashInt))
      | _ => none
    | none, _ => none

/-- The values as members of a set, room having been made for so many of them. -/
def membersOf (room : Nat) (vs : List V) (s : Store) : Members V :=
  .ofList room (vs.map fun v => (hashTo? s (s.heap.size + 1) v, v))

/-- Adds a value to those that are there, unless one of them has its key. -/
def addMember (t : ClassTable) (found : Gathered V) (v : V) : StoreStep (Gathered V) := do
  let key ← keyOf t v
  pure (found.put key v id)

/-- Adds an entry to a table: at the end, or with the value in place of the former one. -/
def addEntry (t : ClassTable) (found : Gathered (V × V)) (k v : V) : StoreStep (Gathered (V × V)) := do
  let key ← keyOf t k
  pure (found.put key (k, v) fun former => (former.1, v))

def gatherMembers (t : ClassTable) (vs : List V) : StoreStep (Gathered V) :=
  Surface.foldSteps (addMember t) vs .empty

def gatherEntries (t : ClassTable) (kvs : List (V × V)) : StoreStep (Gathered (V × V)) :=
  Surface.foldSteps (fun g kv => addEntry t g kv.1 kv.2) kvs .empty

def valueUnder? (t : ClassTable) (key : String) (kvs : List (V × V)) : StoreStep (Option V) := do
  let g ← gatherEntries t kvs
  pure ((g.under? key).map (·.2))

/-! ## Equality -/

/-- All pairs of values at the same place pass the test. -/
def allPairs (test : V → V → StoreStep Bool) : List V → List V → StoreStep Bool
  | [], [] => pure true
  | x :: p, y :: q => do
    let b ← test x y
    if b then allPairs test p q else pure false
  | _, _ => pure false

def entriesAgree (t : ClassTable) (test : V → V → StoreStep Bool) (other : Gathered (V × V)) :
    List (V × V) → StoreStep Bool
  | [] => pure true
  | (k, v) :: r => do
    let key ← keyOf t k
    match other.under? key with
    | none => pure false
    | some (_, w) => do
      let b ← test v w
      if b then entriesAgree t test other r else pure false

/-- The two values are equal; containers are compared down to `fuel` levels. -/
def equalTo (t : ClassTable) : Nat → V → V → StoreStep Bool
  | 0, _, _ => complain "RecursionError" "maximum recursion depth exceeded in comparison"
  | fuel + 1, a, b => do
    let same := fun (x y : V) => if identical x y then pure true else equalTo t fuel x y
    let s ← Action.get
    let a := s.plain a
    let b := s.plain b
    let isReal := fun (z : Decimal.Complex) (v : V) =>
      isNumber v && z.im == 0 && compareNumbers (.user (.float z.re)) v == some .eq
    if isNumber a && isNumber b then pure (compareNumbers a b == some .eq)
    else if let (some x, some y) := (s.bytesOf? a, s.bytesOf? b) then pure (x == y)
    else match s.objOf? a, s.objOf? b with
      | some (.complex _ z), some (.complex _ w) => pure (z.same w)
      | some (.complex _ z), none => pure (isReal z b)
      | none, some (.complex _ z) => pure (isReal z a)
      | some (.cut p q r), some (.cut u v w) => allPairs same [p, q, r] [u, v, w]
      | some (.list _ p), some (.list _ q) =>
        if p.size != q.size then pure false else allPairs same p.toList q.toList
      | some (.tuple _ p), some (.tuple _ q) =>
        if p.length != q.length then pure false else allPairs same p q
      | some (.dict _ p), some (.dict _ q) =>
        if p.length != q.length then pure false
        else do
          let other ← gatherEntries t q
          entriesAgree t same other p
      | some (.set _ _ p), some (.set _ _ q) => do
        let ps ← Surface.each (keyOf t) p.toList
        let other ← gatherMembers t q.toList
        pure (ps.length == q.count && ps.all other.holds)
      | some (.range p), some (.range q) => pure (p.same q)
      | some (.alias u c p), some (.alias w d q) =>
        if u == w && c == d && p.length == q.length then allPairs same p q else pure false
      | some (.method i m), some (.method j n) => pure (i == j && m == n)
      | some (.verdict p), some (.verdict q) =>
        allPairs same ((partsOfVerdict p).map (·.2)) ((partsOfVerdict q).map (·.2))
      | _, _ => pure (identical a b)

def comparisonDepth : Nat := 4000

def equal (t : ClassTable) (a b : V) : StoreStep Bool := equalTo t comparisonDepth a b

def agree (t : ClassTable) (a b : V) : StoreStep Bool :=
  if identical a b then pure true else equal t a b

/-! ## Order -/

/-- Compares two sequences at the first place where they differ. -/
def firstDifference (t : ClassTable) (less : V → V → StoreStep Bool) (orEqual : Bool) : List V → List V → StoreStep Bool
  | [], [] => pure orEqual
  | [], _ => pure true
  | _, [] => pure false
  | x :: p, y :: q => do
    let b ← agree t x y
    if b then firstDifference t less orEqual p q else less x y

/-- The first value is less than the second one, or at most as large. -/
def lessTo (t : ClassTable) (orEqual : Bool) : Nat → V → V → StoreStep Bool
  | 0, _, _ => complain "RecursionError" "maximum recursion depth exceeded in comparison"
  | fuel + 1, a, b => do
    let s ← Action.get
    let refuse : StoreStep Bool :=
      complain "TypeError" ("'" ++ (if orEqual then "<=" else "<") ++ "' not supported between instances of '" ++
        typeName t a s ++ "' and '" ++ typeName t b s ++ "'")
    let a := s.plain a
    let b := s.plain b
    if isNumber a && isNumber b then
      match compareNumbers a b with
      | some .lt => pure true
      | some .eq => pure orEqual
      | _ => pure false
    else match a, b with
      | .text x, .text y => pure (if orEqual then !Text.precedes y x else Text.precedes x y)
      | a, b =>
        if let (some x, some y) := (s.bytesOf? a, s.bytesOf? b) then
          pure (if orEqual then !decide (y < x) else decide (x < y))
        else match s.objOf? a, s.objOf? b with
        | some (.cut p q r), some (.cut u v w) =>
          firstDifference t (lessTo t orEqual fuel) orEqual [p, q, r] [u, v, w]
        | some (.list _ x), some (.list _ y) =>
          firstDifference t (lessTo t orEqual fuel) orEqual x.toList y.toList
        | some (.tuple _ x), some (.tuple _ y) => firstDifference t (lessTo t orEqual fuel) orEqual x y
        | some (.set _ _ x), some (.set _ _ y) => do
          let xs ← Surface.each (keyOf t) x.toList
          let other ← gatherMembers t y.toList
          pure (xs.all other.holds && (orEqual || xs.length < y.count))
        | _, _ => refuse

/-- The first value is less than the second one, or at most as large. -/
def less (t : ClassTable) (orEqual : Bool) (a b : V) : StoreStep Bool := lessTo t orEqual comparisonDepth a b

/-! ## Membership -/

/-- Some member is identical or equal to the item. -/
def among (t : ClassTable) (item : V) : List V → StoreStep Bool
  | [] => pure false
  | v :: r => do
    let b ← agree t v item
    if b then pure true else among t item r

/-- The first list occurs as a run of the second one. -/
def isRun (p : List Nat) : List Nat → Bool
  | [] => p.isEmpty
  | y :: q => p.isPrefixOf (y :: q) || isRun p q

/-- The members of an alias that is gone through: the alias, unpacked. -/
def unpackedAlias (c : Cls) (params : List V) : StoreStep V := alloc (.alias true c params)

/-- The members of a verdict that is gone through: its parts with their names. -/
def pairsOfVerdict (v : Verdict V) : StoreStep (List V) :=
  Surface.each (fun p => allocTuple [.text p.1, p.2]) (partsOfVerdict v)

/-- The key under which a value is looked for in a set. A changeable set is looked for as one that never changes. -/
def memberKey (t : ClassTable) (item : V) : StoreStep String := do
  let s ← Action.get
  match s.objOf? item with
  | some (.set _ _ members) => do
    let ks ← Surface.each (keyOf t) members.toList
    pure (setKey ks)
  | _ => keyOf t item

def byteRefusal : String := "byte must be in range(0, 256)"

def contains (t : ClassTable) (item container : V) : StoreStep Bool := do
  let s ← Action.get
  let plain := s.plain item
  let refuse : StoreStep Bool :=
    complain "TypeError" ("argument of type '" ++ typeName t container s ++ "' is not iterable")
  let hasKey := fun (k : String) (vs : List V) => do
    let ks ← Surface.each (keyOf t) vs
    pure (ks.contains k)
  match s.plain container, s.bytesOf? container with
  | .text x, _ =>
    match plain with
    | .text p => pure (isRun (p.toList.map Char.toNat) (x.toList.map Char.toNat))
    | _ => complain "TypeError" ("'in <string>' requires string as left operand, not " ++ typeName t item s)
  | _, some b =>
    match s.bytesOf? item, asInt? plain with
    | some p, _ => pure (isRun p b)
    | none, some n =>
      if n < 0 ∨ 255 < n then complain "ValueError" byteRefusal else pure (b.contains n.toNat)
    | none, none => complain "TypeError" ("a bytes-like object is required, not '" ++ typeName t item s ++ "'")
  | v, none =>
    match s.objOf? v with
    | some (.list _ vs) => among t item vs.toList
    | some (.tuple _ vs) => among t item vs
    | some (.dict _ kvs) => do
      let k ← keyOf t item
      hasKey k (kvs.map (·.1))
    | some (.set _ _ vs) => do
      let k ← memberKey t item
      hasKey k vs.toList
    | some (.range p) =>
      match asInt? item with
      | some n => pure (p.holds n)
      | none => among t item (p.members.map ofInt)
    | some (.alias _ c params) => do
      let v ← unpackedAlias c params
      among t item [v]
    | some (.verdict r) => do
      let vs ← pairsOfVerdict r
      among t item vs
    | _ => refuse

/-- The value passes the test of one of the classes, tuples of classes being taken apart down to `fuel` levels. -/
def anyClass (test : Cls → StoreStep Bool) (refuse : StoreStep Bool) : Nat → V → StoreStep Bool
  | 0, _ => Action.exhausted
  | fuel + 1, c => do
    let s ← Action.get
    match c, s.objOf? c with
    | .user (.cls c), _ => test c
    | _, some (.tuple _ cs) => go (anyClass test refuse fuel) cs
    | _, some (.alias _ _ _) => complain "TypeError" "isinstance() argument 2 cannot be a parameterized generic"
    | _, _ => refuse
where
  /-- Tries one after the other. -/
  go (one : V → StoreStep Bool) : List V → StoreStep Bool
    | [] => pure false
    | c :: r => do
      let b ← one c
      if b then pure true else go one r

/-- The value is an instance of the class, or of one of the classes. -/
def isInstance (t : ClassTable) (v expected : V) : StoreStep Bool := do
  let s ← Action.get
  anyClass (fun c => pure (t.isSubclass (classOf t v s) c))
    (complain "TypeError" "isinstance() arg 2 must be a type, a tuple of types, or a union") (s.heap.size + 1) expected

def errorClass? (t : ClassTable) (v : V) : Option Cls :=
  match v with
  | .user (.cls c) => if t.isError c then some c else none
  | _ => none

/-- What is said of a class that takes in no errors. -/
def uncatchable : String := "catching classes that do not inherit from BaseException is not allowed"

/-- The raised value belongs to the class of errors, or to one of a tuple of such classes. -/
def catches (t : ClassTable) (expected error : V) : StoreStep Bool := do
  let s ← Action.get
  let classes := match s.objOf? expected with
    | some (.tuple _ vs) => vs
    | _ => [expected]
  match classes.mapM (errorClass? t) with
  | some cs => pure (cs.any fun c => t.isSubclass (classOf t error s) c)
  | none => complain "TypeError" uncatchable

end Exemplar.Script

import Exemplar.Script.Convert

/-!
# Exemplar.Script.Stream — complex numbers, parts of sequences, and what can be gone through once

The known classes beside numbers, texts, containers and errors. A stream is made of the members that its sources have
when it is made; what a function or a test has to say about them comes up when the stream is gone through.
-/

namespace Exemplar.Script

variable (t : ClassTable)

/-! ## Complex numbers -/

def readComplex (v : V) (x : String) : Code Decimal.Complex := do
  match Decimal.Numeral.withoutLines? (Decimal.Numeral.plainNumeral x.toList) with
  | none => do
    let shown ← .step (shown t v)
    refuse "ValueError" ("could not convert string to complex: " ++ shown)
  | some cs =>
    match Decimal.Complex.read? cs with
    | some z => pure z
    | none => refuse "ValueError" "complex() arg is a malformed string"

def needNumber (words : String) (v : V) : Code Unit := do
  let s ← store
  if isNumber (s.plain v) || (s.complexOf? v).isSome then pure ()
  else refuse "TypeError" (words ++ ", not '" ++ typeName t v s ++ "'")

def complexIn (v : V) : Code Decimal.Complex := do
  let z ← .step (asComplex? v)
  pure (z.getD (.ofReal 0))

/-- The complex number with that real and that imaginary part, which may be complex themselves. -/
def complexOfParts (a b : V) : Code Decimal.Complex := do
  let s ← store
  let z ← complexIn a
  let w ← complexIn b
  let re := if (s.complexOf? b).isSome then z.re - w.im else z.re
  let im := if (s.complexOf? a).isSome then w.re + z.im else w.re
  pure ⟨re, im⟩

/-- A complex number of the class `c`. -/
def makeComplex (c : Cls) (args : List V) : Code V := do
  let s ← store
  let isText := fun (v : V) => match s.plain v with
    | .text _ => true
    | _ => false
  let first := "complex() first argument must be a string or a number"
  match args with
  | [] => make (.complex c (.ofReal 0))
  | [a] =>
    match s.plain a, s.objOf? a with
    | .text x, _ => do
      let z ← readComplex t a x
      make (.complex c z)
    | _, some (.complex d z) => if d = c ∧ c = .named "complex" then pure a else make (.complex c z)
    | _, _ => do
      needNumber t first a
      let z ← complexIn a
      make (.complex c z)
  | [a, b] =>
    if isText a then refuse "TypeError" "complex() can't take second arg if first is a string"
    else if isText b then refuse "TypeError" "complex() second arg can't be a string"
    else do
      needNumber t first a
      needNumber t "complex() second argument must be a number" b
      let z ← complexOfParts a b
      make (.complex c z)
  | args => countRefused "complex() takes at most 2 arguments" args.length

/-! ## Bytes that can be changed, and parts of sequences -/

/-- Bytes of the class `c`. -/
def makeBuffers (c : Cls) (args : List V) : Code V :=
  match args with
  | [] => make (.buffer c #[])
  | v :: more =>
    if 2 < more.length then countRefused "bytearray() takes at most 3 arguments" args.length
    else makeBuffer t c v more

/-- The refusal of a number of arguments that is too small or too large. -/
def expected {α : Type} (callee words : String) (args : List V) : Code α :=
  refuse "TypeError" (callee ++ " expected " ++ words ++ ", got " ++ toString args.length)

def makeCut (args : List V) : Code V :=
  match args with
  | [] => expected "slice" "at least 1 argument" args
  | [stop] => make (.cut .absent stop .absent)
  | [start, stop] => make (.cut start stop .absent)
  | [start, stop, step] => make (.cut start stop step)
  | args => expected "slice" "at most 3 arguments" args

/-! ## Streams -/

/-- The members of several sources at the same places, as long as all have one; at most `n`. -/
def rows : Nat → List (List V) → List (List V)
  | 0, _ => []
  | n + 1, sources =>
    if sources.any (·.isEmpty) then [] else sources.filterMap (·.head?) :: rows n (sources.map (·.tail))

def allRows (sources : List (List V)) : List (List V) :=
  match sources with
  | [] => []
  | first :: _ => rows first.length sources

/-- The name of the class of a stream that goes through a value backwards; none for a value that has no order. -/
def backwardName? (v : V) (s : Store) : Option String :=
  match s.plain v, s.objOf? v with
  | .text _, _ | .user (.bytes _), _ | _, some (.tuple _ _) | _, some (.buffer _ _) => some "reversed"
  | _, some (.list _ _) => some "list_reverseiterator"
  | _, some (.dict _ _) => some "dict_reversekeyiterator"
  | _, some (.range _) => some "range_iterator"
  | _, _ => none

/-- A stream of a value's members from the last one on. -/
def makeBackward (c : Cls) (v : V) : Code V := do
  let s ← store
  match backwardName? v s with
  | none => refuse "TypeError" ("'" ++ typeName t v s ++ "' object is not reversible")
  | some name => do
    let vs ← iterate t v
    make (.stream (if name = "reversed" then c else .named name) .each (vs.reverse.map fun v => [v]))

def makeNumbered (c : Cls) (v : V) (more : List V) : Code V := do
  let start ← match more with
    | [] => pure 0
    | n :: _ => needInt t n
  let vs ← iterate t v
  make (.stream c .together (vs.zipIdx.map fun p => [ofInt (start + p.2), p.1]))

/-- A stream of the class `c`, which is built on the known class of that name. -/
def makeStream (c : Cls) (name : String) (args : List V) : Code V :=
  match name, args with
  | "zip", sources => do
    let lists ← eachOf (iterate t) sources
    make (.stream c .together (allRows lists))
  | "map", f :: source :: sources => do
    let lists ← eachOf (iterate t) (source :: sources)
    make (.stream c (.mapped f) (allRows lists))
  | "map", _ => refuse "TypeError" "map() must have at least two arguments."
  | "filter", [test, source] => do
    let vs ← iterate t source
    make (.stream c (.filtered test) (vs.map fun v => [v]))
  | "filter", args => expected name "2 arguments" args
  | "reversed", [v] => makeBackward t c v
  | "enumerate", [] => refuse "TypeError" "enumerate() missing required argument 'iterable'"
  | "enumerate", v :: more =>
    if 1 < more.length then countRefused "enumerate() takes at most 2 arguments" args.length
    else makeNumbered t c v more
  | name, args => expected name "1 argument" args

/-! ## Descriptors and views -/

/-- An instance of a known class that says nothing more about itself. -/
def makeOther (name : String) (args : List V) : Code V := do
  let s ← store
  match name, args with
  | "property", args =>
    if 4 < args.length then countRefused "property() takes at most 4 arguments" args.length else make (.other name)
  | "staticmethod", [_] | "classmethod", [_] => make (.other name)
  | "super", [] => refuse "RuntimeError" "super(): __class__ cell not found"
  | "super", v :: more =>
    if 1 < more.length then expected "super()" "at most 2 arguments" args
    else match v with
      | .user (.cls _) => make (.other name)
      | v => refuse "TypeError" ("super() argument 1 must be a type, not " ++ typeName t v s)
  | "memoryview", [] => refuse "TypeError" "memoryview() missing required argument 'object' (pos 1)"
  | "memoryview", [v] =>
    if (s.bytesOf? v).isSome then make (.other name)
    else refuse "TypeError" ("memoryview: a bytes-like object is required, not '" ++ typeName t v s ++ "'")
  | "memoryview", args => countRefused "memoryview() takes at most 1 argument" args.length
  | name, args => expected name "1 argument" args

def streamClasses : List String := ["zip", "map", "filter", "reversed", "enumerate"]

/-- The names of the known classes whose instances say nothing about themselves. -/
def otherClasses : List String := ["property", "staticmethod", "classmethod", "super", "memoryview"]

end Exemplar.Script

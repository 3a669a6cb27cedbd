import Exemplar.Script.Construct

/-!
# Exemplar.Script.Tool — functions that are known everywhere

Small functions on values that have a name of their own and are no classes: lengths, sums, tests, written forms of
integers, an ordered list.
-/

namespace Exemplar.Script

variable (t : ClassTable)

/-! ## Tests and sums -/

/-- Some value counts as `wanted`. -/
def anyHolds (wanted : Bool) (v : V) : Code Bool := do
  let vs ← iterate t v
  let s ← store
  pure (vs.any fun v => (surface t).holds v s == wanted)

/-- The sum of the values, beginning with a start. -/
def sumOf (v start : V) : Code V := do
  let s ← store
  match s.plain start with
  | .text _ => refuse "TypeError" "sum() can't sum strings [use ''.join(seq) instead]"
  | _ => do
    let vs ← iterate t v
    foldList (fun acc w => .step (add t acc w)) vs start

/-! ## Order -/

/-- Puts a value behind those that it does not precede, from the end on. -/
def insertBy (v : V) : List V → Code (List V)
  | [] => pure [v]
  | w :: r => do
    let b ← .step (less t false v w)
    if b then do
      let q ← insertBy v r
      pure (w :: q)
    else pure (v :: w :: r)

/-- The values in order, the last one first. -/
def orderedDown : List V → List V → Code (List V)
  | acc, [] => pure acc
  | acc, v :: r => do
    let acc ← insertBy t v acc
    orderedDown acc r

/-- The value that precedes all others, or that all others precede; the first one of equal values. -/
def extreme (least : Bool) : V → List V → Code V
  | v, [] => pure v
  | v, w :: r => do
    let b ← .step (if least then less t false w v else less t false v w)
    extreme least (if b then w else v) r

/-- The extreme one of some values, or of the members of one value. -/
def extremeOf (name : String) (args : List V) : Code V :=
  match args with
  | [] => refuse "TypeError" (name ++ " expected at least 1 argument, got 0")
  | args => do
    let vs ← match args with
      | [v] => iterate t v
      | vs => pure vs
    match vs with
    | [] => refuse "ValueError" (name ++ "() arg is an empty sequence")
    | v :: r => extreme t (name == "min") v r

/-! ## Written forms -/

/-- An integer in a base, with the mark of the base. -/
def inBase (base : Nat) (mark : String) (v : V) : Code V := do
  let n ← needInt t v
  pure (.text ((if n < 0 then "-" else "") ++ mark ++ String.ofList (Nat.toDigits base n.natAbs)))

/-- The value as it is shown, in characters of ASCII. -/
def asciiForm (v : V) : Code V := do
  let x ← .step (shown t v)
  pure (.text (String.ofList (x.toList.flatMap fun c =>
    if c.toNat < 128 then [c] else Text.numericEscape (Text.codePoint c))))

def characterAt (v : V) : Code V := do
  let n ← needInt t v
  if n < -2147483648 ∨ 2147483648 ≤ n then refuse "OverflowError" "Python int too large to convert to C int"
  else if n < 0 ∨ 1114112 ≤ n then refuse "ValueError" "chr() arg not in range(0x110000)"
  else pure (.text (String.singleton (Text.charOf n.toNat)))

def numberOfCharacter (v : V) : Code V := do
  let s ← store
  let wrongLength := fun (n : Nat) =>
    refuse "TypeError" ("ord() expected a character, but string of length " ++ toString n ++ " found")
  match s.plain v, s.bytesOf? v with
  | .text x, _ =>
    match x.toList with
    | [c] => pure (ofInt (Text.codePoint c))
    | cs => wrongLength cs.length
  | _, some [b] => pure (ofInt b)
  | _, some bs => wrongLength bs.length
  | _, none => refuse "TypeError" ("ord() expected string of length 1, but " ++ typeName t v s ++ " found")

def distance (v : V) : Code V := do
  let s ← store
  match asInt? (s.plain v), s.plain v, s.complexOf? v with
  | some n, _, _ => pure (ofInt n.natAbs)
  | _, .user (.float x), _ => pure (.user (.float x.abs))
  | _, _, some z => pure (.user (.float (z.re * z.re + z.im * z.im).sqrt))
  | _, _, none => refuse "TypeError" ("bad operand type for abs(): '" ++ typeName t v s ++ "'")

/-! ## Calls -/

def applyTool (name : String) (v : V) : Code V :=
  match name with
  | "abs" => distance t v
  | "all" => do
    let b ← anyHolds t false v
    pure (.flag !b)
  | "any" => do
    let b ← anyHolds t true v
    pure (.flag b)
  | "ascii" => asciiForm t v
  | "bin" => inBase t 2 "0b" v
  | "oct" => inBase t 8 "0o" v
  | "hex" => inBase t 16 "0x" v
  | "chr" => characterAt t v
  | "ord" => numberOfCharacter t v
  | "len" => lengthOf t v
  | "callable" => do
    let s ← store
    pure (.flag ((surface t).isCallable v s))
  | "hash" => do
    let _ ← (.step (keyOf t v) : Code String)
    let s ← store
    let n := (hashTo? s (s.heap.size + 1) v).getD 0
    pure (ofInt (if n < hashRange / 2 then n else (n : Int) - hashRange))
  | _ => do
    let x ← .step (shown t v)
    pure (.text x)

def callTool (name : String) (args : List V) : Code V := do
  let s ← store
  match name, args with
  | "isinstance", [v, c] => .flag <$> .step (isInstance t v c)
  | "issubclass", [v, c] =>
    match v with
    | .user (.cls d) => .flag <$> .step (anyClass (fun c => pure (t.isSubclass d c))
        (complain "TypeError" "issubclass() arg 2 must be a class, a tuple of classes, or a union") (s.heap.size + 1) c)
    | _ => refuse "TypeError" "issubclass() arg 1 must be a class"
  | "sum", [] => countRefused "sum() takes at least 1 positional argument" 0
  | "sum", [v] => sumOf t v (ofInt 0)
  | "sum", [v, start] => sumOf t v start
  | "sum", args => countRefused "sum() takes at most 2 arguments" args.length
  | "sorted", [v] => do
    let vs ← iterate t v
    let down ← orderedDown t [] vs
    makeList down.reverse
  | "sorted", args => refuse "TypeError" ("sorted expected 1 argument, got " ++ toString args.length)
  | "min", args | "max", args => extremeOf t name args
  | name, [v] =>
    if toolsOfOne.contains name then applyTool t name v
    else refuse "TypeError" (name ++ " expected 2 arguments, got 1")
  | name, args =>
    if toolsOfOne.contains name then countRefused (name ++ "() takes exactly one argument") args.length
    else refuse "TypeError" (name ++ " expected 2 arguments, got " ++ toString args.length)

end Exemplar.Script

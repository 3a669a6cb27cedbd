import Exemplar.Script.Compare

/-!
# Exemplar.Script.Arith — sums, differences, products and quotients

Integers are exact. As soon as a floating-point number takes part, the other operand is rounded to one first, and the
quotient of two integers is the floating-point number nearest to it. Texts, bytes and sequences can be joined and
repeated, sets can be subtracted.
-/

namespace Exemplar.Script

/-! ## Numbers -/

/-- The floating-point number nearest to a number; `none` for any other value. -/
def asFloat? (v : V) : StoreStep (Option Float) :=
  match v with
  | .user (.float x) => pure (some x)
  | v =>
    match asInt? v with
    | none => pure none
    | some n =>
      match Decimal.nearest? n 1 with
      | some x => pure (some x)
      | none => complain "OverflowError" "int too large to convert to float"

/-- The floating-point numbers nearest to both, combined. -/
def combineFloats (op : Float → Float → StoreStep V) (a b : V) : StoreStep V := do
  let x ← asFloat? a
  let y ← asFloat? b
  op (x.getD 0) (y.getD 0)

/-- Combines two numbers, exactly if both are integers. -/
def combineNumbers (exact : Int → Int → Int) (rounded : Float → Float → Float) (a b : V) : StoreStep V :=
  match asInt? a, asInt? b with
  | some x, some y => pure (ofInt (exact x y))
  | _, _ => combineFloats (fun x y => pure (.user (.float (rounded x y)))) a b

def addNumbers : V → V → StoreStep V := combineNumbers (· + ·) (· + ·)

def subtractNumbers : V → V → StoreStep V := combineNumbers (· - ·) (· - ·)

def multiplyNumbers : V → V → StoreStep V := combineNumbers (· * ·) (· * ·)

/-- The quotient of two integers, rounded once. A zero keeps the sign of the divisor. -/
def divideInts (x y : Int) : StoreStep V :=
  if y = 0 then complain "ZeroDivisionError" "division by zero"
  else if x = 0 ∧ y < 0 then pure (.user (.float (-0.0)))
  else match Decimal.nearest? (if y < 0 then -x else x) y.natAbs with
    | some q => pure (.user (.float q))
    | none => complain "OverflowError" "integer division result too large for a float"

def divideNumbers (a b : V) : StoreStep V :=
  match asInt? a, asInt? b with
  | some x, some y => divideInts x y
  | _, _ => combineFloats (fun x y =>
      if y == 0 then complain "ZeroDivisionError" "float division by zero"
      else pure (.user (.float (x / y)))) a b

/-! ## Complex numbers -/

/-- The number, of whatever sort, as a complex one. -/
def asComplex? (v : V) : StoreStep (Option Decimal.Complex) := do
  let s ← Action.get
  match s.complexOf? v with
  | some z => pure (some z)
  | none => do
    let x ← asFloat? (s.plain v)
    pure (x.map .ofReal)

/-- Both are numbers, one of them at least a complex one. -/
def areComplex (s : Store) (a b : V) : Bool :=
  let isAny := fun (v : V) => isNumber (s.plain v) || (s.complexOf? v).isSome
  isAny a && isAny b && ((s.complexOf? a).isSome || (s.complexOf? b).isSome)

/-- Combines two numbers as complex ones; where there is no result, one of them has been divided by zero. -/
def combineComplex (op : Decimal.Complex → Decimal.Complex → Option Decimal.Complex) (a b : V) : StoreStep V := do
  let z ← asComplex? a
  let w ← asComplex? b
  match op (z.getD (.ofReal 0)) (w.getD (.ofReal 0)) with
  | some y => alloc (.complex (.named "complex") y)
  | none => complain "ZeroDivisionError" "complex division by zero"

/-! ## Refusals -/

/-- The operation is not defined on the two values. -/
def unsupported (t : ClassTable) (sign : String) (a b : V) : StoreStep V := do
  let s ← Action.get
  complain "TypeError" ("unsupported operand type(s) for " ++ sign ++ ": '" ++ typeName t a s ++ "' and '" ++
    typeName t b s ++ "'")

/-- The value cannot be joined to a sequence of that sort. -/
def notJoined (t : ClassTable) (sort : String) (b : V) : StoreStep V := do
  let s ← Action.get
  complain "TypeError" ("can only concatenate " ++ sort ++ " (not \"" ++ typeName t b s ++ "\") to " ++ sort)

/-! ## Sums -/

/-- One tuple behind the other. A plain one is handed on as it is when the other one has no members. -/
def joinTuples (a b : V) (c d : Cls) (x y : List V) : StoreStep V :=
  if x.isEmpty && d == .named "tuple" then pure b
  else if y.isEmpty && c == .named "tuple" then pure a
  else allocTuple (x ++ y)

/-- Bytes that can be changed where those of the object can. -/
def joinedLike (o : Option Obj) (bs : List Nat) : StoreStep V :=
  match o with
  | some (.buffer _ _) => alloc (.buffer (.named "bytearray") bs.toArray)
  | _ => pure (.user (.bytes bs))

/-- The sum of two values: numbers are added, sequences of one sort are joined. -/
def add (t : ClassTable) (a b : V) : StoreStep V := do
  let s ← Action.get
  let p := s.plain a
  let q := s.plain b
  if isNumber p && isNumber q then addNumbers p q
  else if areComplex s a b then combineComplex (fun z w => some (z.add w)) a b
  else match p, q with
    | .text x, .text y => pure (.text (x ++ y))
    | .text _, _ => notJoined t "str" b
    | _, _ =>
      match s.objOf? a, s.objOf? b with
      | some (.list _ x), some (.list _ y) => alloc (.list (.named "list") (x ++ y))
      | some (.list _ _), _ => notJoined t "list" b
      | some (.tuple c x), some (.tuple d y) => joinTuples a b c d x y
      | some (.tuple _ _), _ => notJoined t "tuple" b
      | o, _ =>
        match s.bytesOf? a, s.bytesOf? b with
        | some x, some y => joinedLike o (x ++ y)
        | some _, none => complain "TypeError" ("can't concat " ++ typeName t b s ++ " to " ++ typeName t a s)
        | none, _ => unsupported t "+" a b

/-! ## Differences -/

def setClass (frozen : Bool) : Cls := .named (if frozen then "frozenset" else "set")

/-- The difference of two values: numbers are subtracted, and the members of a set are taken out of another one. -/
def subtract (t : ClassTable) (a b : V) : StoreStep V := do
  let s ← Action.get
  let p := s.plain a
  let q := s.plain b
  if isNumber p && isNumber q then subtractNumbers p q
  else if areComplex s a b then combineComplex (fun z w => some (z.sub w)) a b
  else match s.objOf? a, s.objOf? b with
    | some (.set _ frozen x), some (.set _ _ y) => do
      let keys ← Surface.each (keyOf t) x.toList
      let out ← gatherMembers t y.toList
      alloc (.set (setClass frozen) frozen (x.without (keys.map out.holds) y.count))
    | _, _ => unsupported t "-" a b

/-! ## Products -/

/-- The list, repeated; a negative number counts as zero. -/
def repeated {α : Type} (n : Int) (l : List α) : List α :=
  if l.isEmpty then [] else (List.replicate n.toNat l).flatten

/-- How many members a sequence that is made by repetition can have. -/
def mostMembers : Int := 1099511627776

/-- The number can count or name the places of a sequence. -/
def fitsIndex (n : Int) : Bool := -9223372036854775808 ≤ n && n < 9223372036854775808

/-- The error that a sequence of so many members cannot be repeated. -/
def tooManyMembers (unlessFits : String × String) (members : Int) : StoreStep V :=
  if fitsIndex members then complain "MemoryError" "" else complain unlessFits.1 unlessFits.2

/-- The sequence, repeated, unless it would have too many members; the pair is the error for a number of members that
is out of reach. -/
def repeatMembers {α : Type} (unlessFits : String × String) (n : Int) (l : List α) (build : List α → StoreStep V) :
    StoreStep V :=
  if mostMembers < n * l.length then tooManyMembers unlessFits (n * l.length) else build (repeated n l)

/-- A repeated tuple. A plain one that has no members or is wanted once is handed on as it is. -/
def repeatTuple (v : V) (c : Cls) (vs : List V) (n : Int) : StoreStep V :=
  if (vs.isEmpty || n == 1) && c == .named "tuple" then pure v
  else repeatMembers ("MemoryError", "") n vs allocTuple

/-- The repetition of a sequence; `none` if the value is none. -/
def repetition? (s : Store) (v : V) : Option (Int → StoreStep V) :=
  match s.plain v with
  | .text x => some fun n =>
    repeatMembers ("OverflowError", "repeated string is too long") n x.toList fun cs => pure (.text (String.ofList cs))
  | .user (.bytes b) => some fun n =>
    repeatMembers ("OverflowError", "repeated bytes are too long") n b fun bs => pure (.user (.bytes bs))
  | v =>
    match s.objOf? v with
    | some (.list _ vs) => some fun n =>
      repeatMembers ("MemoryError", "") n vs.toList fun ws => alloc (.list (.named "list") ws.toArray)
    | some (.tuple c vs) => some (repeatTuple v c vs)
    | some (.buffer _ b) => some fun n =>
      repeatMembers ("MemoryError", "") n b.toList fun bs => alloc (.buffer (.named "bytearray") bs.toArray)
    | _ => none

/-- Repeats a sequence as often as the value says. -/
def repeatBy (t : ClassTable) (repetition : Int → StoreStep V) (times : V) : StoreStep V := do
  let s ← Action.get
  match asInt? (s.plain times) with
  | none => complain "TypeError" ("can't multiply sequence by non-int of type '" ++ typeName t times s ++ "'")
  | some n =>
    if fitsIndex n then repetition n
    else complain "OverflowError" ("cannot fit '" ++ typeName t times s ++ "' into an index-sized integer")

/-- The product of two values: numbers are multiplied, and a sequence is repeated. -/
def multiply (t : ClassTable) (a b : V) : StoreStep V := do
  let s ← Action.get
  let p := s.plain a
  let q := s.plain b
  if isNumber p && isNumber q then multiplyNumbers p q
  else if areComplex s a b then combineComplex (fun z w => some (z.mul w)) a b
  else match repetition? s a, repetition? s b with
    | some r, _ => repeatBy t r b
    | none, some r => repeatBy t r a
    | none, none => unsupported t "*" a b

/-! ## Quotients and distances -/

def divide (t : ClassTable) (a b : V) : StoreStep V := do
  let s ← Action.get
  let p := s.plain a
  let q := s.plain b
  if isNumber p && isNumber q then divideNumbers p q
  else if areComplex s a b then combineComplex Decimal.Complex.div? a b
  else unsupported t "/" a b

/-- The distance of a number from zero, as a floating-point number. -/
def magnitude (t : ClassTable) (v : V) : StoreStep V := do
  let s ← Action.get
  match ← asFloat? (s.plain v) with
  | some x => pure (.user (.float x.abs))
  | none =>
    let name ← typeNameNow t v
    complain "TypeError" ("must be real number, not " ++ name)

end Exemplar.Script

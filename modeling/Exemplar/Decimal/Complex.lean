import Exemplar.Decimal.Numeral

/-!
# Exemplar.Decimal.Complex — numbers with an imaginary part

A complex number is a pair of floating-point numbers. It is written as a sum between brackets, or as its imaginary part
alone where the real one is zero without a sign.
-/

namespace Exemplar.Decimal

/-- A complex number. -/
structure Complex where
  re : Float
  im : Float

namespace Complex

def ofReal (x : Float) : Complex := ⟨x, 0.0⟩

def add (z w : Complex) : Complex := ⟨z.re + w.re, z.im + w.im⟩

def sub (z w : Complex) : Complex := ⟨z.re - w.re, z.im - w.im⟩

def mul (z w : Complex) : Complex := ⟨z.re * w.re - z.im * w.im, z.re * w.im + z.im * w.re⟩

/-- The quotient, the larger part of the divisor being divided by first; none by zero. -/
def div? (z w : Complex) : Option Complex :=
  if w.im.abs ≤ w.re.abs then
    if w.re == 0 then none
    else
      let ratio := w.im / w.re
      let d := w.re + w.im * ratio
      some ⟨(z.re + z.im * ratio) / d, (z.im - z.re * ratio) / d⟩
  else if w.re.abs ≤ w.im.abs then
    let ratio := w.re / w.im
    let d := w.re * ratio + w.im
    some ⟨(z.re * ratio + z.im) / d, (z.im * ratio - z.re) / d⟩
  else some ⟨0.0 / 0.0, 0.0 / 0.0⟩

def isZero (z : Complex) : Bool := z.re == 0 && z.im == 0

def same (z w : Complex) : Bool := z.re == w.re && z.im == w.im

/-! ## Writing -/

/-- A part as it is written: without a fraction that is zero. -/
def partText (x : Float) : String :=
  let s := Decimal.text x
  if s.endsWith ".0" then String.ofList (s.toList.take (s.length - 2)) else s

def text (z : Complex) : String :=
  let imaginary := partText z.im
  if z.re == 0 && !isNegative z.re then imaginary ++ "j"
  else
    let sign := if imaginary.startsWith "-" then "" else "+"
    "(" ++ partText z.re ++ sign ++ imaginary ++ "j)"

/-! ## Reading -/

/-- The longest beginning of the characters that writes a number, out of the first `n`, and what comes behind it. -/
def startNumber? (cs : List Char) : Nat → Option (Float × List Char)
  | 0 => none
  | n + 1 =>
    match Decimal.read? (cs.take (n + 1)) with
    | some x => some (x, cs.drop (n + 1))
    | none => startNumber? cs n

/-- A character that a number can be written with. -/
def isNumberChar (c : Char) : Bool := c.isAlphanum || c == '+' || c == '-' || c == '.'

/-- A number at the beginning of the characters, and what comes behind it. -/
def numberAt? (cs : List Char) : Option (Float × List Char) :=
  startNumber? cs (cs.takeWhile isNumberChar).length

/-- The unit that a sign or nothing stands for, and what comes behind the sign. -/
def unitAt : List Char → Float × List Char
  | '+' :: r => (1.0, r)
  | '-' :: r => (-1.0, r)
  | r => (1.0, r)

/-- The characters behind the mark of an imaginary part. -/
def behindMark? : List Char → Option (List Char)
  | c :: r => if c == 'j' || c == 'J' then some r else none
  | [] => none

/-- The parts at the beginning of the characters, and what comes behind them. -/
def partsAt? (cs : List Char) : Option (Complex × List Char) :=
  match numberAt? cs with
  | none =>
    let (y, r) := unitAt cs
    (behindMark? r).map fun r => (⟨0.0, y⟩, r)
  | some (x, r) =>
    if (r.head?.map fun c => c == '+' || c == '-').getD false then
      let (y, q) := (numberAt? r).getD (unitAt r)
      (behindMark? q).map fun q => (⟨x, y⟩, q)
    else match behindMark? r with
      | some q => some (⟨0.0, x⟩, q)
      | none => some (⟨x, 0.0⟩, r)

/-- The number that characters write, perhaps between brackets, with blanks inside and around these. -/
def read? (cs : List Char) : Option Complex :=
  let skip := fun (cs : List Char) => cs.dropWhile Numeral.isPlainBlank
  let cs := skip cs
  let isBracketed := cs.head? == some '('
  (partsAt? (if isBracketed then skip cs.tail else cs)).bind fun p =>
    let r := skip p.2
    let rest := if isBracketed then (if r.head? == some ')' then skip r.tail else ['(']) else r
    if rest.isEmpty then some p.1 else none

end Complex
end Exemplar.Decimal

/-!
# Exemplar.Decimal.Exact — floating-point numbers as fractions

Every finite number is a fraction; `nearest?` goes back from a fraction to the number next to it, a tie going to the
even mantissa. Comparisons and roundings of the language of specifications are made on the fractions.
-/

namespace Exemplar.Decimal

def signBit : Nat := Nat.pow 2 63

/-- The value of the leading bit of a full mantissa, which is not stored. -/
def leadingBit : Nat := Nat.pow 2 52

def isNegative (x : Float) : Bool := x.toBits.toNat / signBit == 1

/-- Mantissa and power of two of the magnitude of a finite number. -/
def decode (x : Float) : Nat × Int :=
  let bits : Nat := x.toBits.toNat
  let e : Nat := (bits / leadingBit) % 2048
  let f : Nat := bits % leadingBit
  if e == 0 then (f, -1074) else (f + leadingBit, (e : Int) - 1075)

def ratio (x : Float) : Int × Nat :=
  let (m, k) := decode x
  let m : Int := if isNegative x then -(m : Int) else m
  if 0 ≤ k then (m * (Nat.pow 2 k.toNat : Nat), 1) else (m, Nat.pow 2 (-k).toNat)

/-- The quotient, rounded to the nearest natural number; a tie goes to the even one. -/
def roundHalfEven (n d : Nat) : Nat :=
  let q := n / d
  let r := 2 * (n % d)
  if r > d || (r == d && q % 2 == 1) then q + 1 else q

/-- The fraction `a / d` divided by the power of `b` to `k`. -/
def scale (b : Nat) (k : Int) (a d : Nat) : Nat × Nat :=
  if 0 ≤ k then (a, d * Nat.pow b k.toNat) else (a * Nat.pow b (-k).toNat, d)

/-- The power of two for which the fraction has a mantissa of 53 bits, but at least the smallest power there is. -/
def exponentFor (a d : Nat) : Int :=
  let k : Int := (Nat.log2 a : Int) - (Nat.log2 d : Int) - 52
  let (p, q) := scale 2 k a d
  let k := if p / q < leadingBit then k - 1 else k
  if k < -1074 then -1074 else k

/-- The bits of the number with that mantissa, of at most 53 bits, and that power of two; `none` when too large. -/
def encode? (m : Nat) (k : Int) : Option Nat :=
  let (m, k) := if m == 2 * leadingBit then (leadingBit, k + 1) else (m, k)
  if 971 < k then none
  else some (if m < leadingBit then m else (k + 1075).toNat * leadingBit + (m - leadingBit))

/-- The number nearest to the fraction; `none` when it is too large for one. -/
def nearest? (n : Int) (d : Nat) : Option Float :=
  let a := n.natAbs
  if a == 0 then some 0.0
  else
    let k := exponentFor a d
    let (p, q) := scale 2 k a d
    (encode? (roundHalfEven p q) k).map fun bits =>
      Float.ofBits (if n < 0 then bits + signBit else bits).toUInt64

end Exemplar.Decimal

import Exemplar.Decimal.Exact

/-!
# Exemplar.Decimal.Shortest — floating-point numbers as text

A number is written with the fewest digits that read back as the same number, and of those with the nearest ones.
Numbers from 10^-4 up to 10^16 are written positionally, all others with an exponent of at least two digits.
-/

namespace Exemplar.Decimal

/-! ## Digits -/

/-- The power of ten of the first digit of a fraction other than zero. -/
def leadingPower (a d : Nat) : Int :=
  let guess : Int := (((Nat.log2 a : Int) - (Nat.log2 d : Int)) * 30103) / 100000
  let below := fun (k : Int) => let (p, q) := scale 10 k a d; decide (p < q)
  if below guess then guess - 1 else if below (guess + 1) then guess else guess + 1

/-- The natural number times the power of ten reads as the number whose bits these are. -/
def readsAs (bits : UInt64) (m : Nat) (k : Int) : Bool :=
  let (p, q) := scale 10 (-k) m 1
  ((nearest? p q).map (·.toBits)) == some bits

/-- The two whole multiples of the power of ten next to the fraction, the nearer one first. -/
def neighbours (k : Int) (a d : Nat) : Nat × Nat :=
  let (p, q) := scale 10 k a d
  let lo := p / q
  let r := 2 * (p % q)
  if r < q || (r == q && lo % 2 == 0) then (lo, lo + 1) else (lo + 1, lo)

/-- The first neighbour that reads back, trying from `digits` digits on, with its power of ten. -/
def search (bits : UInt64) (a d : Nat) (lead : Int) : Nat → Nat → Nat × Int
  | 0, _ => (0, 0)
  | n + 1, digits =>
    let k : Int := lead - digits + 1
    let (first, second) := neighbours k a d
    if readsAs bits first k then (first, k)
    else if readsAs bits second k then (second, k)
    else search bits a d lead n (digits + 1)

/-- The shortest digits of a positive number, without zeros at the end, and the power of ten of the first one. -/
def shortest (x : Float) : List Char × Int :=
  let (n, d) := ratio x
  let a := n.natAbs
  let (m, k) := search x.toBits a d (leadingPower a d) 18 1
  let ds := Nat.toDigits 10 m
  let kept := (ds.reverse.dropWhile (· == '0')).reverse
  (if kept.isEmpty then ['0'] else kept, k + ds.length - 1)

/-! ## Writing -/

def withExponent (ds : List Char) (e : Int) : List Char :=
  let body := match ds with
    | c :: d :: r => c :: '.' :: d :: r
    | ds => ds
  let digits := Nat.toDigits 10 e.natAbs
  body ++ ['e', if e < 0 then '-' else '+'] ++ List.replicate (2 - digits.length) '0' ++ digits

def positional (ds : List Char) (e : Int) : List Char :=
  if e < 0 then '0' :: '.' :: (List.replicate (-e - 1).toNat '0' ++ ds)
  else
    let n := e.toNat + 1
    let rest := ds.drop n
    ds.take n ++ List.replicate (n - ds.length) '0' ++ '.' :: (if rest.isEmpty then ['0'] else rest)

def text (x : Float) : String :=
  if x.isNaN then "nan"
  else
    let sign := if isNegative x then "-" else ""
    let y := if isNegative x then -x else x
    if y.isInf then sign ++ "inf"
    else if y == 0 then sign ++ "0.0"
    else
      let (ds, e) := shortest y
      sign ++ String.ofList (if e < -4 || 16 ≤ e then withExponent ds e else positional ds e)

/-! ## Reading -/

def natOf (ds : List Char) : Nat := ds.foldl (fun n c => n * 10 + (c.toNat - 48)) 0

/-- The sign in front, and the rest. -/
def splitSign : List Char → Bool × List Char
  | '-' :: r => (true, r)
  | '+' :: r => (false, r)
  | r => (false, r)

/-- The exponent that the characters write, if they do. -/
def readExponent? : List Char → Option Int
  | [] => some 0
  | c :: r =>
    if c == 'e' || c == 'E' then
      let (negative, ds) := splitSign r
      if ds.isEmpty || !ds.all Char.isDigit then none
      else some (if negative then -(natOf ds : Int) else natOf ds)
    else none

/-- The magnitude that digits, a point and an exponent write. -/
def readMagnitude? (cs : List Char) : Option Float :=
  let whole := cs.takeWhile Char.isDigit
  let r := cs.dropWhile Char.isDigit
  let (fraction, r) := match r with
    | '.' :: r => (r.takeWhile Char.isDigit, r.dropWhile Char.isDigit)
    | r => ([], r)
  if whole.isEmpty && fraction.isEmpty then none
  else
    (readExponent? r).map fun e =>
      let digits := whole ++ fraction
      let m := natOf digits
      let k : Int := e - fraction.length
      if m == 0 || k + digits.length < -400 then 0.0
      else if 400 < k then 1.0 / 0.0
      else
        let (p, q) := scale 10 (-k) m 1
        (nearest? p q).getD (1.0 / 0.0)

/-- The number that characters write, without blanks around it. -/
def read? (cs : List Char) : Option Float :=
  let (negative, cs) := splitSign cs
  let word := (String.ofList cs).toLower
  let magnitude? :=
    if word == "inf" || word == "infinity" then some (1.0 / 0.0)
    else if word == "nan" then some (0.0 / 0.0)
    else readMagnitude? cs
  magnitude?.map fun x => if negative then -x else x

end Exemplar.Decimal

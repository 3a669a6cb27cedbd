import Exemplar.Decimal.Shortest
import Exemplar.Text.Blank
import Exemplar.Text.Classes

/-!
# Exemplar.Decimal.Numeral — integers and decimal fractions out of texts

A numeral may have blanks around it, a sign in front, and single low lines between its digits. A text may use the
decimal digits of any script; bytes, and texts of ASCII characters alone, know no other blanks than those of ASCII.
Integers can be written in a base from two to thirty-six; base zero asks for what the numeral itself tells, by the
letter behind a leading zero.
-/

namespace Exemplar.Decimal.Numeral

/-! ## Characters -/

def isPlainBlank (c : Char) : Bool := c == ' ' || ('\t' ≤ c && c ≤ '\r')

def decimalValue? (c : Char) : Option Nat :=
  (Text.decimalDigits.find? fun r => r.1 ≤ c.toNat && c.toNat ≤ r.2).map fun r => (c.toNat - r.1) % 10

/-- A character as it counts in a numeral: digits and blanks of any script for those of ASCII. -/
def plainChar (c : Char) : Char :=
  if c.toNat < 128 then c
  else if Text.isBlank c then ' '
  else match decimalValue? c with
    | some n => Char.ofNat (48 + n)
    | none => '?'

/-- The characters of a text as they count in a numeral. -/
def plainNumeral (cs : List Char) : List Char :=
  if cs.all fun c => c.toNat < 128 then cs else cs.map plainChar

/-- The characters without the blanks around them. -/
def trimmed (cs : List Char) : List Char :=
  ((cs.dropWhile isPlainBlank).reverse.dropWhile isPlainBlank).reverse

/-! ## Integers -/

/-- The value of a digit in a base of up to thirty-six. -/
def digitValue? (c : Char) : Option Nat :=
  if '0' ≤ c ∧ c ≤ '9' then some (c.toNat - 48)
  else if 'a' ≤ c ∧ c ≤ 'z' then some (c.toNat - 87)
  else if 'A' ≤ c ∧ c ≤ 'Z' then some (c.toNat - 55)
  else none

/-- The number that digits write in a base; a low line may stand between two of them, and in front if `lead` says so. -/
def readDigits? (base : Nat) (lead : Bool) (cs : List Char) : Option Nat := go 0 lead true cs
where
  /-- Goes on from a value; `free` tells that a low line may come next, `wanting` that a digit has to come. -/
  go (n : Nat) (free wanting : Bool) : List Char → Option Nat
    | [] => if wanting then none else some n
    | c :: r =>
      if c == '_' then (if free then go n false true r else none)
      else match digitValue? c with
        | some d => if d < base then go (n * base + d) true false r else none
        | none => none

/-- The base that the letter behind a leading zero tells. -/
def baseOfLetter? (c : Char) : Option Nat :=
  if c == 'x' || c == 'X' then some 16
  else if c == 'o' || c == 'O' then some 8
  else if c == 'b' || c == 'B' then some 2
  else none

/-- The magnitude that characters write in a base. -/
def readMagnitude? (base : Nat) (cs : List Char) : Option Nat :=
  match cs with
  | '0' :: c :: r =>
    match baseOfLetter? c with
    | some b => if base = 0 ∨ base = b then readDigits? b true r else readDigits? base false cs
    | none =>
      if base = 0 then (readDigits? 10 false cs).filter (· == 0) else readDigits? base false cs
  | cs => readDigits? (if base = 0 then 10 else base) false cs

def readInt? (base : Nat) (cs : List Char) : Option Int :=
  let (negative, cs) := Decimal.splitSign (trimmed cs)
  (readMagnitude? base cs).map fun n => if negative then -(n : Int) else n

/-- The largest number of decimal digits that is read or written. -/
def mostDigits : Nat := 4300

/-- A base for which the number of digits is limited. -/
def isLimited (base : Nat) : Bool := !([2, 4, 8, 16, 32].contains base)

/-- The number of digits with which a numeral begins, if there are more of them than are read in this base. -/
def excess? (base : Nat) (cs : List Char) : Option Nat :=
  let base := if base = 0 then 10 else base
  let isDigit := fun (c : Char) => ((digitValue? c).map fun d => decide (d < base)).getD false
  let run := (Decimal.splitSign (trimmed cs)).2.takeWhile fun c => c == '_' || isDigit c
  let n := (run.filter isDigit).length
  if isLimited base && mostDigits < n then some n else none

/-- The number has at most as many decimal digits as are written; no number of so few bits has more. -/
def isShort (n : Nat) : Bool := Nat.log2 n < 3 * mostDigits || decide (n < Nat.pow 10 mostDigits)

/-- An integer in decimal digits; `none` if there are too many of them. -/
def writeInt? (n : Int) : Option String := if isShort n.natAbs then some (toString n) else none

/-! ## Decimal fractions -/

/-- The characters without the low lines between digits; `none` if one stands elsewhere. -/
def withoutLines? (cs : List Char) : Option (List Char) := go false cs
where
  /-- Goes on; `digit` tells that a digit came last. -/
  go (digit : Bool) : List Char → Option (List Char)
    | [] => some []
    | '_' :: c :: r => if digit && c.isDigit then (go true r).map (c :: ·) else none
    | '_' :: [] => none
    | c :: r => (go c.isDigit r).map (c :: ·)

/-- The floating-point number that characters write. -/
def readFloat? (cs : List Char) : Option Float :=
  (withoutLines? (trimmed cs)).bind Decimal.read?

end Exemplar.Decimal.Numeral

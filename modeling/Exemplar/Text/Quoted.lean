import Exemplar.Text.Classes
import Exemplar.Text.Half

/-!
# Exemplar.Text.Quoted — texts and bytes as they are shown

A text stands between single quotes, or between double ones if it holds a single quote and no double one. The quote
and the backslash are escaped, and so is every character that is not shown as it is.
-/

namespace Exemplar.Text

/-- The number in hexadecimal, at least `width` digits long. -/
def hexText (width n : Nat) : List Char :=
  let ds := Nat.toDigits 16 n
  List.replicate (width - ds.length) '0' ++ ds

def numericEscape (n : Nat) : List Char :=
  if n < 0x100 then '\\' :: 'x' :: hexText 2 n
  else if n < 0x10000 then '\\' :: 'u' :: hexText 4 n
  else '\\' :: 'U' :: hexText 8 n

/-- The escape that a character has by name, between quotes of the given sort. -/
def namedEscape? (quote c : Char) : Option (List Char) :=
  if c = '\\' then some ['\\', '\\']
  else if c = quote then some ['\\', c]
  else if c = '\n' then some ['\\', 'n']
  else if c = '\r' then some ['\\', 'r']
  else if c = '\t' then some ['\\', 't']
  else none

def showChar (quote c : Char) : List Char :=
  match namedEscape? quote c with
  | some e => e
  | none => if isHidden c then numericEscape (codePoint c) else [c]

/-- The sort of quotes that the characters are put between. -/
def quoteFor (cs : List Char) : Char :=
  if cs.contains '\'' && !cs.contains '"' then '"' else '\''

def quoted (s : String) : String :=
  let q := quoteFor s.toList
  String.ofList (q :: s.toList.flatMap (showChar q) ++ [q])

def showByte (quote : Char) (n : Nat) : List Char :=
  match namedEscape? quote (Char.ofNat n) with
  | some e => e
  | none => if n < 0x20 || 0x7f ≤ n then numericEscape n else [Char.ofNat n]

/-- The bytes between quotes, with the mark that tells them from a text. -/
def quotedBytes (b : List Nat) : String :=
  let q := quoteFor (b.map Char.ofNat)
  String.ofList ('b' :: q :: b.flatMap (showByte q) ++ [q])

end Exemplar.Text

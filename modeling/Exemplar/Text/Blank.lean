/-!
# Exemplar.Text.Blank — trailing blanks and sentence ends

What a diagnostic loses at its right end before it is written, and whether it still needs a full stop.

* `dropBlanksRight_append_blank`: a blank at the right end never survives.
* `dropBlanksRight_append_of_not_blank`: a text that ends in another character is left alone.
-/

namespace Exemplar.Text

/-! ## Blanks -/

/-- Spaces, tabs, line and paragraph ends, and the information separators; the zero-width space is none. -/
def isBlank (c : Char) : Bool :=
  let n := c.toNat
  (0x9 ≤ n && n ≤ 0xd) || (0x1c ≤ n && n ≤ 0x20) || n == 0x85 || n == 0xa0 || n == 0x1680 ||
    (0x2000 ≤ n && n ≤ 0x200a) || n == 0x2028 || n == 0x2029 || n == 0x202f || n == 0x205f || n == 0x3000

/-- The characters up to the last one that is no blank. -/
def dropBlanksRight : List Char → List Char
  | [] => []
  | c :: r =>
    match dropBlanksRight r with
    | [] => if isBlank c then [] else [c]
    | d :: t => c :: d :: t

/-- The text without the blanks at its right end. -/
def trimRight (s : String) : String :=
  String.ofList (dropBlanksRight s.toList)

theorem dropBlanksRight_append_blank (l : List Char) (c : Char) (h : isBlank c = true) :
    dropBlanksRight (l ++ [c]) = dropBlanksRight l := by
  induction l with
  | nil => simp [dropBlanksRight, h]
  | cons d r ih => simp [dropBlanksRight, ih]

theorem dropBlanksRight_append_of_not_blank (l : List Char) (c : Char) (h : isBlank c = false) :
    dropBlanksRight (l ++ [c]) = l ++ [c] := by
  induction l with
  | nil => simp [dropBlanksRight, h]
  | cons d r ih =>
    rw [List.cons_append, dropBlanksRight, ih]
    cases r <;> rfl

/-! ## Sentences -/

/-- A full stop, an exclamation mark or a question mark. -/
def isSentenceEnd (c : Char) : Bool :=
  c == '.' || c == '!' || c == '?'

def endsSentence (s : String) : Bool :=
  match s.toList.getLast? with
  | some c => isSentenceEnd c
  | none => false

/-- The text trimmed on the right and closed by a full stop where it does not end a sentence yet. -/
def asSentence (s : String) : String :=
  let t := trimRight s
  if endsSentence t then t else t ++ "."

end Exemplar.Text

/-!
# Exemplar.Text.Half — halves of pairs

Characters beyond the first plane can be written as pairs of numbers, and a text from outside may hold one half of such
a pair by itself. No character has the number of a half. A text keeps it as the character of the last private plane
whose number ends alike, and `codePoint` tells the number that is meant.

* `codePoint_charOf`: the number that is meant by what keeps a half is that of the half.
-/

namespace Exemplar.Text

def isHalf (n : Nat) : Bool := 0xD800 ≤ n && n < 0xE000

/-- The number is that of the second half of a pair. -/
def isLowHalf (n : Nat) : Bool := 0xDC00 ≤ n && n < 0xE000

/-- The number of the first character of the last plane. -/
def lastPlane : Nat := 0x100000

/-- The number that a character of a text means. -/
def codePoint (c : Char) : Nat :=
  let n := c.toNat
  if n < lastPlane then n else if isHalf (n - lastPlane) then n - lastPlane else n

/-- What a text keeps for a number. -/
def charOf (n : Nat) : Char := Char.ofNat (if isHalf n then lastPlane + n else n)

/-- The first text comes before the second one: at the first difference the smaller number decides. -/
def precedes (x y : String) : Bool := decide (x.toList.map codePoint < y.toList.map codePoint)

theorem codePoint_charOf {n : Nat} (h : isHalf n = true) : codePoint (charOf n) = n := by
  have hn : 0xD800 ≤ n ∧ n < 0xE000 := by simpa [isHalf] using h
  have hv : (lastPlane + n).isValidChar := by
    simp only [Nat.isValidChar, lastPlane]
    omega
  have ht : (Char.ofNat (lastPlane + n)).toNat = lastPlane + n := by
    rw [Char.ofNat, dif_pos hv]
    rfl
  have hl : ¬ lastPlane + n < lastPlane := by omega
  simp [codePoint, charOf, h, ht, hl]

end Exemplar.Text

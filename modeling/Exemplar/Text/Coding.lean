import Exemplar.Text.CharacterName
import Exemplar.Text.Quoted

/-!
# Exemplar.Text.Coding — faults of turning texts into bytes and back

What cannot be turned is a fault, mostly with its place and a reason; a remedy says what is to be done about it.
-/

namespace Exemplar.Text

/-! ## Faults -/

/-- What cannot be turned: something from one place up to another, or all of it, and why. -/
inductive CodingFault where
  | placed (start stop : Nat) (reason : String)
  | whole (reason : String)
deriving DecidableEq, Repr

/-! ## Written forms -/

/-- A character written with a backslash and its name, or its number if it has none. -/
def namedEscape (c : Char) : List Char :=
  match CharacterName.name? c with
  | some name => ['\\', 'N', '\x7b'] ++ name.toList ++ ['\x7d']
  | none => numericEscape (codePoint c)

/-! ## Halves in bytes -/

/-- How an encoding that has a place for each number writes the numbers that halves have: with how many bytes, and
whether the highest byte comes first; without that, as the eighth form does. -/
structure HalfForm where
  size : Nat
  highFirst : Option Bool
deriving DecidableEq, Repr

namespace HalfForm

def write (f : HalfForm) (n : Nat) : List Nat :=
  match f.highFirst with
  | none => [0xE0 + n / 4096, 0x80 + n / 64 % 64, 0x80 + n % 64]
  | some highFirst =>
    let low := [n % 256, n / 256] ++ List.replicate (f.size - 2) 0
    if highFirst then low.reverse else low

def read? (f : HalfForm) (bs : List Nat) : Option Nat :=
  let n := match f.highFirst, bs with
    | none, a :: b :: c :: _ =>
      if a / 16 = 14 ∧ b / 64 = 2 ∧ c / 64 = 2 then a % 16 * 4096 + b % 64 * 64 + c % 64 else 0
    | some highFirst, bs =>
      let word := bs.take f.size
      if word.length < f.size then 0
      else (if highFirst then word else word.reverse).foldl (fun n b => n * 256 + b) 0
    | none, _ => 0
  if isHalf n then some n else none

end HalfForm

/-! ## Remedies -/

/-- What is done about a fault. Bytes can be kept as halves and become bytes again, and halves can be let through. -/
inductive Remedy where
  | strict
  | ignore
  | replace
  | escape
  | reference
  | name
  | keepBytes
  | keepHalves
deriving DecidableEq, Repr

namespace Remedy

def named? : String → Option Remedy
  | "strict" => some .strict
  | "ignore" => some .ignore
  | "replace" => some .replace
  | "backslashreplace" => some .escape
  | "xmlcharrefreplace" => some .reference
  | "namereplace" => some .name
  | "surrogateescape" => some .keepBytes
  | "surrogatepass" => some .keepHalves
  | _ => none

def isForChars (r : Remedy) : Bool := r = .reference || r = .name

def mostKept : Nat := 4

/-- What stands for the first `n` of some bytes, which are at fault, and how many bytes it stands for; `none` if nothing
can. -/
def forBytes (remedy : Remedy) (form : Option HalfForm) (n : Nat) (bs : List Nat) : Option (List Char × Nat) :=
  let faulty := bs.take n
  match remedy with
  | .ignore => some ([], n)
  | .replace => some ([Char.ofNat 0xFFFD], n)
  | .escape => some (faulty.flatMap numericEscape, n)
  | .keepBytes =>
    let kept := (faulty.take mostKept).takeWhile (128 ≤ ·)
    if kept.isEmpty then none else some (kept.map fun b => charOf (0xDC00 + b), kept.length)
  | .keepHalves =>
    form.bind fun f => (f.read? bs).map fun n => ([charOf n], f.size)
  | .strict | .reference | .name => none

/-- The bytes that stand for a character that cannot be turned. -/
def bytesFor? (remedy : Remedy) (form : Option HalfForm) (c : Char) : Option (List Nat) :=
  let n := codePoint c
  match remedy with
  | .keepBytes =>
    let isWide := (form.bind (·.highFirst)).isSome
    if 0xDC80 ≤ n ∧ n < 0xDD00 ∧ !isWide then some [n - 0xDC00] else none
  | .keepHalves => if isHalf n then form.map fun f => f.write n else none
  | _ => none

/-- The characters that stand for a character that cannot be turned; `none` if nothing can. -/
def forChar (remedy : Remedy) (c : Char) : Option (List Char) :=
  match remedy with
  | .ignore => some []
  | .replace => some ['?']
  | .escape => some (numericEscape (codePoint c))
  | .reference => some (['&', '#'] ++ Nat.toDigits 10 (codePoint c) ++ [';'])
  | .name => some (namedEscape c)
  | .strict | .keepBytes | .keepHalves => none

end Remedy

/-- Goes on with what stands for the bytes of a text from `start` up to `stop`, which are at fault; `rest` goes on from
a place. -/
def remedyBytes (remedy : Remedy) (text : List Nat) (start stop : Nat) (reason : String)
    (rest : Nat → Except CodingFault (List Char)) : Except CodingFault (List Char) :=
  match remedy.forBytes none (stop - start) (text.drop start) with
  | none => .error (.placed start stop reason)
  | some (stand, n) => (rest (start + n)).map (stand ++ ·)

end Exemplar.Text

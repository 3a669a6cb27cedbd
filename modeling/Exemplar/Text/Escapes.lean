import Exemplar.Text.Coding

/-!
# Exemplar.Text.Escapes — texts with backslashes for what is not plain

Each byte stands for the character of its number, and a backslash begins an escape. The raw form knows only the escapes
for characters beyond the bytes; the full one has escapes for everything that is not printable ASCII.
-/

namespace Exemplar.Text.Escapes

/-! ## Encoding -/

def written (raw : Bool) (c : Char) : List Char :=
  if raw then (if c.toNat < 256 then [c] else numericEscape (codePoint c))
  else if c = '\\' then ['\\', '\\']
  else if c = '\t' then ['\\', 't']
  else if c = '\n' then ['\\', 'n']
  else if c = '\r' then ['\\', 'r']
  else if ' ' ≤ c ∧ c ≤ '~' then [c]
  else numericEscape (codePoint c)

def encode (raw : Bool) (cs : List Char) : List Nat := cs.flatMap fun c => (written raw c).map Char.toNat

/-! ## Decoding -/

/-- The value of a byte that writes a digit of base sixteen. -/
def hexValue? (b : Nat) : Option Nat :=
  if 48 ≤ b ∧ b ≤ 57 then some (b - 48)
  else if 97 ≤ b ∧ b ≤ 102 then some (b - 87)
  else if 65 ≤ b ∧ b ≤ 70 then some (b - 55)
  else none

/-- The digits of base sixteen at the beginning, up to `n` of them. -/
def takeHex (n : Nat) (bs : List Nat) : List Nat :=
  ((bs.take n).map hexValue?).takeWhile Option.isSome |>.filterMap id

/-- What an escape comes to: characters and how many bytes it takes behind the backslash, or a fault with that number
of bytes. -/
inductive Reading where
  | chars (cs : List Char) (n : Nat)
  | fault (n : Nat) (reason : String)

/-- An escape with `width` digits behind its letter. -/
def numbered (letter : Char) (width : Nat) (beyond : String) (bs : List Nat) : Reading :=
  let ds := takeHex width bs
  if ds.length < width then
    let pattern := String.ofList ('\\' :: letter :: List.replicate width 'X')
    .fault (1 + ds.length) ("truncated " ++ pattern ++ " escape")
  else
    let n := ds.foldl (fun n d => n * 16 + d) 0
    if 0x110000 ≤ n then .fault (1 + width) beyond else .chars [charOf n] (1 + width)

def named (bs : List Nat) : Reading :=
  let malformed := "malformed \\N character escape"
  match bs with
  | 0x7B :: r =>
    let name := r.takeWhile (· != 0x7D)
    if name.length = r.length then .fault (2 + name.length) malformed
    else if name.isEmpty then .fault 3 malformed
    else match CharacterName.named? (String.ofList (name.map Char.ofNat)) with
      | some c => .chars [c] (3 + name.length)
      | none => .fault (3 + name.length) "unknown Unicode character name"
  | _ => .fault 1 malformed

/-- The character that a letter behind a backslash stands for. -/
def controlOf? (b : Nat) : Option Nat :=
  match Char.ofNat b with
  | 'a' => some 7
  | 'b' => some 8
  | 't' => some 9
  | 'n' => some 10
  | 'v' => some 11
  | 'f' => some 12
  | 'r' => some 13
  | '\\' => some 92
  | '\'' => some 39
  | '"' => some 34
  | _ => none

def escape (raw : Bool) : List Nat → Reading
  | [] => if raw then .chars ['\\'] 0 else .fault 0 "\\ at end of string"
  | b :: r =>
    let beyond := if raw then "\\Uxxxxxxxx out of range" else "illegal Unicode character"
    if b = 'u'.toNat then numbered 'u' 4 beyond r
    else if b = 'U'.toNat then numbered 'U' 8 beyond r
    else if raw then .chars ['\\', Char.ofNat b] 1
    else if b = 'x'.toNat then numbered 'x' 2 beyond r
    else if b = 'N'.toNat then named r
    else if b = '\n'.toNat then .chars [] 1
    else if 48 ≤ b ∧ b < 56 then
      let ds := ((b :: r).take 3).takeWhile fun d => 48 ≤ d && d < 56
      .chars [Char.ofNat (ds.foldl (fun n d => n * 8 + (d - 48)) 0)] ds.length
    else match controlOf? b with
      | some n => .chars [Char.ofNat n] 1
      | none => .chars ['\\', Char.ofNat b] 1

/-- The characters of the bytes `bs`, which stand at `place` of `text`, in at most `fuel` steps. -/
def decodeFrom (raw : Bool) (remedy : Remedy) (text : List Nat) : Nat → Nat → List Nat →
    Except CodingFault (List Char)
  | 0, _, _ => .ok []
  | _ + 1, _, [] => .ok []
  | fuel + 1, place, b :: r =>
    if b ≠ '\\'.toNat then (decodeFrom raw remedy text fuel (place + 1) r).map (Char.ofNat b :: ·)
    else
      match escape raw r with
      | .chars cs n => (decodeFrom raw remedy text fuel (place + 1 + n) (r.drop n)).map (cs ++ ·)
      | .fault n reason =>
        let stop := place + 1 + n
        remedyBytes remedy text place stop reason fun i => decodeFrom raw remedy text fuel i (text.drop i)

def decode (raw : Bool) (remedy : Remedy) (bs : List Nat) : Except CodingFault (List Char) :=
  decodeFrom raw remedy bs bs.length 0 bs

end Exemplar.Text.Escapes

import Exemplar.Text.Coding

/-!
# Exemplar.Text.Utf7 — texts in the printable characters of ASCII

Characters that every mail keeps stand for themselves. The others are written between a plus sign and a hyphen, six
bits of their sixteen-bit numbers to a digit of base sixty-four.
-/

namespace Exemplar.Text.Utf7

/-! ## Digits -/

def digits : List Char := "ABCDEFGHIJKLMNOPQRSTUVWXYZabcdefghijklmnopqrstuvwxyz0123456789+/".toList

def digit (n : Nat) : Nat := ((digits[n]?).map Char.toNat).getD 0

def digitValue? (b : Nat) : Option Nat := digits.findIdx? fun c => c.toNat == b

/-- The numbers of sixteen bits that a character is written with. -/
def units (c : Char) : List Nat :=
  let n := codePoint c
  if n < 0x10000 then [n] else [0xD800 + (n - 0x10000) / 1024, 0xDC00 + (n - 0x10000) % 1024]

/-! ## Encoding -/

def isDirect (c : Char) : Bool :=
  (' ' ≤ c && c ≤ '\x7d' && c != '+' && c != '\\') || c == '\t' || c == '\n' || c == '\r'

/-- Bits that have not been written yet: their number and the number that they make. -/
structure Pending where
  count : Nat
  bits : Nat
deriving DecidableEq, Repr

def Pending.none : Pending := ⟨0, 0⟩

/-- Adds one unit and gives out all whole digits; at most three are whole. -/
def Pending.add (p : Pending) (unit : Nat) : List Nat × Pending :=
  let count := p.count + 16
  let bits := p.bits * 65536 + unit
  let kept := count % 6
  let whole := bits >>> kept
  let ds := (List.range (count / 6)).map fun i => digit (whole >>> (6 * (count / 6 - 1 - i)) % 64)
  (ds, ⟨kept, bits % (1 <<< kept)⟩)

def Pending.flush (p : Pending) : List Nat :=
  if p.count = 0 then [] else [digit ((p.bits <<< (6 - p.count)) % 64)]

def Pending.addChar (p : Pending) (c : Char) : List Nat × Pending :=
  (units c).foldl (fun acc u =>
    let (ds, q) := acc.2.add u
    (acc.1 ++ ds, q)) ([], p)

/-- The bytes of characters; there are pending bits between a plus sign and its end. -/
def encodeFrom : Option Pending → List Char → List Nat
  | none, [] => []
  | some p, [] => p.flush ++ ['-'.toNat]
  | none, c :: r =>
    if c = '+' then '+'.toNat :: '-'.toNat :: encodeFrom none r
    else if isDirect c then c.toNat :: encodeFrom none r
    else
      let (ds, p) := Pending.none.addChar c
      '+'.toNat :: ds ++ encodeFrom (some p) r
  | some p, c :: r =>
    if isDirect c then
      let mark := if digits.contains c || c = '-' then ['-'.toNat] else []
      p.flush ++ mark ++ c.toNat :: encodeFrom none r
    else
      let (ds, p) := p.addChar c
      ds ++ encodeFrom (some p) r

def encode (cs : List Char) : List Nat := encodeFrom none cs

/-! ## Decoding -/

/-- What has been read behind a plus sign: its place, bits that make no unit yet, and the first half of a character
that takes two units. -/
structure Shift where
  start : Nat
  pending : Pending
  half : Option Nat
deriving DecidableEq, Repr

/-- A unit is read; gives out the characters that are complete. -/
def Shift.addUnit (s : Shift) (unit : Nat) : List Char × Shift :=
  match s.half, isLowHalf unit with
  | some high, true =>
    ([Char.ofNat (0x10000 + (high - 0xD800) * 1024 + (unit - 0xDC00))], { s with half := none })
  | half, _ =>
    let before := (half.map charOf).toList
    if isHalf unit && !isLowHalf unit then (before, { s with half := some unit })
    else (before ++ [charOf unit], { s with half := none })

def Shift.addDigit (s : Shift) (value : Nat) : List Char × Shift :=
  let count := s.pending.count + 6
  let bits := s.pending.bits * 64 + value
  if count < 16 then ([], { s with pending := ⟨count, bits⟩ })
  else
    let kept := count - 16
    Shift.addUnit { s with pending := ⟨kept, bits % (1 <<< kept)⟩ } (bits >>> kept)

/-- What is wrong with the digits before a byte that is none. -/
def Shift.faultAtEnd? (s : Shift) : Option String :=
  if 6 ≤ s.pending.count then some "partial character in shift sequence"
  else if s.pending.bits ≠ 0 then some "non-zero padding bits in shift sequence"
  else none

def Shift.isUnfinished (s : Shift) : Bool := s.half.isSome || s.faultAtEnd?.isSome

/-- The characters of the bytes `bs`, which stand at `place` of `text`, in at most `fuel` steps. -/
def decodeFrom (remedy : Remedy) (text : List Nat) : Nat → Nat → Option Shift → List Nat →
    Except CodingFault (List Char)
  | 0, _, _, _ => .ok []
  | _ + 1, _, none, [] => .ok []
  | _ + 1, place, some s, [] =>
    if s.isUnfinished then remedyBytes remedy text s.start place "unterminated shift sequence" fun _ => .ok []
    else .ok []
  | fuel + 1, place, some s, b :: r =>
    match digitValue? b with
    | some value =>
      let (cs, s) := s.addDigit value
      (decodeFrom remedy text fuel (place + 1) (some s) r).map (cs ++ ·)
    | none =>
      match s.faultAtEnd? with
      | some reason =>
        remedyBytes remedy text s.start (place + 1) reason fun i => decodeFrom remedy text fuel i none (text.drop i)
      | none =>
        let before := if b < 128 then (s.half.map charOf).toList else []
        let rest := if b = '-'.toNat then decodeFrom remedy text fuel (place + 1) none r
          else decodeFrom remedy text fuel place none (b :: r)
        rest.map (before ++ ·)
  | fuel + 1, place, none, b :: r =>
    if b = '+'.toNat then
      match r with
      | c :: q =>
        if c = '-'.toNat then (decodeFrom remedy text fuel (place + 2) none q).map ('+' :: ·)
        else if (digitValue? c).isNone then
          remedyBytes remedy text place (place + 2) "ill-formed sequence" fun i =>
            decodeFrom remedy text fuel i none (text.drop i)
        else decodeFrom remedy text fuel (place + 1) (some ⟨place, .none, none⟩) r
      | [] => decodeFrom remedy text fuel (place + 1) (some ⟨place, .none, none⟩) []
    else if b < 128 then (decodeFrom remedy text fuel (place + 1) none r).map (Char.ofNat b :: ·)
    else
      remedyBytes remedy text place (place + 1) "unexpected special character" fun i =>
        decodeFrom remedy text fuel i none (text.drop i)

def decode (remedy : Remedy) (bs : List Nat) : Except CodingFault (List Char) :=
  decodeFrom remedy bs (2 * bs.length + 2) 0 none bs

end Exemplar.Text.Utf7

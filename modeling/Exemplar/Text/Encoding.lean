import Exemplar.Text.Charset
import Exemplar.Text.Escapes
import Exemplar.Text.Punycode
import Exemplar.Text.Utf7

/-!
# Exemplar.Text.Encoding — texts as bytes

A text is turned into bytes, and bytes into a text, by an encoding. A fault of bytes covers as many of them as could
have begun a character; a fault of a text covers all neighbouring characters that the encoding lacks.
-/

namespace Exemplar.Text

/-! ## Encodings -/

/-- An encoding. Words of two or four bytes have their lowest byte first, highest first, or as a mark at the beginning
tells. A marked text of the eighth form has its mark in front, too. Nothing can be turned by `never`. -/
inductive Encoding where
  | utf8 (marked : Bool)
  | utf7
  | ascii
  | latin1
  | words (size : Nat) (highFirst : Option Bool)
  | charset (chars : Array Char)
  | escapes (raw : Bool)
  | punycode
  | never
deriving DecidableEq, Repr

namespace Encoding

/-- The names that an encoding goes by, in small letters and with one low line for each other sign. -/
def names : List (Encoding × List String) := [
  (.utf8 false, ["utf_8", "utf8", "u8", "utf", "utf8_ucs2", "utf8_ucs4", "cp65001"]),
  (.utf8 true, ["utf_8_sig"]),
  (.utf7, ["utf_7", "u7", "utf7", "unicode_1_1_utf_7"]),
  (.escapes false, ["unicode_escape"]),
  (.escapes true, ["raw_unicode_escape"]),
  (.punycode, ["punycode"]),
  (.never, ["undefined"]),
  (.ascii, ["ascii", "646", "ansi_x3.4_1968", "ansi_x3_4_1968", "ansi_x3.4_1986", "cp367", "csascii", "ibm367",
    "iso646_us", "iso_646.irv_1991", "iso_ir_6", "us", "us_ascii"]),
  (.latin1, ["latin_1", "latin1", "latin", "l1", "8859", "cp819", "csisolatin1", "ibm819", "iso8859", "iso8859_1",
    "iso_8859_1", "iso_8859_1_1987", "iso_ir_100", "charmap"]),
  (.words 2 none, ["utf_16", "utf16", "u16"]),
  (.words 2 (some false), ["utf_16_le", "utf_16le", "unicodelittleunmarked"]),
  (.words 2 (some true), ["utf_16_be", "utf_16be", "unicodebigunmarked"]),
  (.words 4 none, ["utf_32", "utf32", "u32"]),
  (.words 4 (some false), ["utf_32_le", "utf_32le"]),
  (.words 4 (some true), ["utf_32_be", "utf_32be"])]

/-- A character that counts in the name of an encoding. -/
def isNameChar (c : Char) : Bool := c.isAlphanum || c == '.'

/-- The name in small letters, with one low line in place of each run of other signs between them. -/
def plainName (name : String) : String :=
  String.ofList (go false (name.toLower.toList.dropWhile fun c => !isNameChar c))
where
  /-- Goes on; `pending` tells that other signs have come since the last letter or digit. -/
  go (pending : Bool) : List Char → List Char
    | [] => []
    | c :: r =>
      if isNameChar c then (if pending then '_' :: c :: go false r else c :: go false r)
      else go true r

/-- The encoding of that name. A full stop stands for a low line in all names but the first one. -/
def named? (name : String) : Option Encoding :=
  let plain := plainName name
  let other := plain.replace "." "_"
  let known := fun (l : List String) => l.contains plain || l.tail.contains other
  match names.find? fun p => known p.2 with
  | some p => some p.1
  | none => (Charset.all.find? fun c => known c.names).map fun c => .charset c.chars

/-- The names of encodings that are so common that no table of encodings is asked for them. -/
def commonNames : List String :=
  ["utf_8", "utf8", "utf_16", "utf16", "utf_32", "utf32", "ascii", "us_ascii", "latin1", "latin_1", "iso_8859_1",
    "iso8859_1"]

def isCommonName (name : String) : Bool := commonNames.contains (plainName name)

/-- Names of ways to turn something that is no text, or into something that is none. -/
def otherNames : List String :=
  ["base64_codec", "base64", "base_64", "bz2_codec", "bz2", "hex_codec", "hex", "quopri_codec", "quopri",
    "quoted_printable", "quotedprintable", "rot_13", "rot13", "uu_codec", "uu", "zlib_codec", "zip", "zlib"]

/-- The name is that of something else than an encoding. -/
def isOtherName (name : String) : Bool := otherNames.contains (plainName name)

/-- The name by which an encoding speaks of itself; one that leaves the order of bytes to a mark tells the order when it
reads. -/
def ownName (reading : Bool) : Encoding → String
  | .utf8 _ => "utf-8"
  | .utf7 => "utf7"
  | .ascii => "ascii"
  | .latin1 => "latin-1"
  | .charset _ => "charmap"
  | .escapes raw => if raw then "rawunicodeescape" else "unicodeescape"
  | .punycode => "punycode"
  | .never => "undefined"
  | .words size order =>
    "utf-" ++ toString (8 * size) ++
      (if order == some true then "-be" else if order.isSome || reading then "-le" else "")

end Encoding

/-- How an encoding writes halves where they are let through. -/
def halfForm? : Encoding → Option HalfForm
  | .utf8 _ => some ⟨3, none⟩
  | .words size order => some ⟨size, some (order == some true)⟩
  | _ => none

/-- Why an encoding lacks a character, or does not know a byte. -/
def lackReason : Encoding → String
  | .utf8 _ | .words _ _ => "surrogates not allowed"
  | .latin1 => "ordinal not in range(256)"
  | .charset _ => "character maps to <undefined>"
  | _ => "ordinal not in range(128)"

/-! ## Decoding -/

/-- The first character of some bytes with the number of bytes that it takes, or the number of bytes that are at fault
and the reason. -/
abbrev FirstChar := Except (Nat × String) (Char × Nat)

def secondRange (first : Nat) : Nat × Nat :=
  if first = 0xE0 then (0xA0, 0xBF) else if first = 0xED then (0x80, 0x9F)
  else if first = 0xF0 then (0x90, 0xBF) else if first = 0xF4 then (0x80, 0x8F) else (0x80, 0xBF)

/-- Takes the bytes behind the first one: `left` more are needed, `taken` have been, and the next one lies in the
range. -/
def continueUtf8 (range : Nat × Nat) (code taken : Nat) : Nat → List Nat → FirstChar
  | 0, _ => .ok (Char.ofNat code, taken)
  | _ + 1, [] => .error (taken, "unexpected end of data")
  | left + 1, b :: r =>
    if range.1 ≤ b ∧ b ≤ range.2 then continueUtf8 (0x80, 0xBF) (code * 64 + b % 64) (taken + 1) left r
    else .error (taken, "invalid continuation byte")

/-- The first character of bytes that start with `b`. -/
def firstUtf8 (b : Nat) (r : List Nat) : FirstChar :=
  if b < 0x80 then .ok (Char.ofNat b, 1)
  else if b < 0xC2 ∨ 0xF4 < b then .error (1, "invalid start byte")
  else if b < 0xE0 then continueUtf8 (secondRange b) (b % 32) 1 1 r
  else if b < 0xF0 then continueUtf8 (secondRange b) (b % 16) 1 2 r
  else continueUtf8 (secondRange b) (b % 8) 1 3 r

def wordOf (highFirst : Bool) (bs : List Nat) : Nat :=
  (if highFirst then bs else bs.reverse).foldl (fun n b => n * 256 + b) 0

def firstWord (size : Nat) (highFirst : Bool) (bs : List Nat) : FirstChar :=
  if bs.length < size then .error (bs.length, "truncated data")
  else
    let w := wordOf highFirst (bs.take size)
    let rest := bs.drop size
    if size = 2 ∧ 0xD800 ≤ w ∧ w < 0xDC00 then
      let v := wordOf highFirst (rest.take 2)
      if rest.length < 2 then .error (bs.length, "unexpected end of data")
      else if v < 0xDC00 ∨ 0xE000 ≤ v then .error (2, "illegal UTF-16 surrogate")
      else .ok (Char.ofNat (0x10000 + (w - 0xD800) * 1024 + (v - 0xDC00)), 4)
    else if size = 2 ∧ 0xDC00 ≤ w ∧ w < 0xE000 then .error (2, "illegal encoding")
    else if 0xD800 ≤ w ∧ w < 0xE000 then .error (4, "code point in surrogate code point range(0xd800, 0xe000)")
    else if 0x110000 ≤ w then .error (4, "code point not in range(0x110000)")
    else .ok (Char.ofNat w, size)

/-- The first character of bytes that start with `b`. -/
def firstChar (e : Encoding) (b : Nat) (r : List Nat) : FirstChar :=
  match e with
  | .utf8 _ => firstUtf8 b r
  | .ascii => if b < 128 then .ok (Char.ofNat b, 1) else .error (1, lackReason e)
  | .charset chars =>
    match Charset.charAt? chars b with
    | some c => .ok (c, 1)
    | none => .error (1, lackReason e)
  | .words size order => firstWord size (order == some true) (b :: r)
  | _ => .ok (Char.ofNat b, 1)

/-- The characters of bytes from a place on, in at most `fuel` steps. -/
def decodeFrom (e : Encoding) (remedy : Remedy) : Nat → Nat → List Nat → Except CodingFault (List Char)
  | 0, _, _ => .ok []
  | _ + 1, _, [] => .ok []
  | fuel + 1, place, b :: r =>
    match firstChar e b r with
    | .ok (c, n) => do
      let cs ← decodeFrom e remedy fuel (place + n) ((b :: r).drop n)
      return c :: cs
    | .error (n, reason) =>
      match remedy.forBytes (halfForm? e) n (b :: r) with
      | none => .error (.placed place (place + n) reason)
      | some (stand, n) => do
        let cs ← decodeFrom e remedy fuel (place + n) ((b :: r).drop n)
        return stand ++ cs

/-- The encoding that a mark at the beginning tells, and the number of bytes that the mark takes. -/
def unmarked (e : Encoding) (bs : List Nat) : Encoding × Nat :=
  match e with
  | .words size none =>
    let mark := 0xFEFF
    if size ≤ bs.length ∧ wordOf true (bs.take size) = mark then (.words size (some true), size)
    else if size ≤ bs.length ∧ wordOf false (bs.take size) = mark then (.words size (some false), size)
    else (.words size (some false), 0)
  | e => (e, 0)

def utf8Mark : List Nat := [0xEF, 0xBB, 0xBF]

/-- The bytes that faults speak of: those behind the mark of a marked text. -/
def faultyBytes (e : Encoding) (bs : List Nat) : List Nat :=
  if e == .utf8 true && utf8Mark.isPrefixOf bs then bs.drop utf8Mark.length else bs

/-- What `never` says. -/
def neverReason : String := "undefined encoding"

def decode (e : Encoding) (remedy : Remedy) (bs : List Nat) : Except CodingFault (List Char) :=
  match e with
  | .utf7 => Utf7.decode remedy bs
  | .escapes raw => Escapes.decode raw remedy bs
  | .punycode => Punycode.decode remedy bs
  | .never => .error (.whole neverReason)
  | e =>
    let bs := faultyBytes e bs
    let (e, n) := unmarked e bs
    decodeFrom e remedy bs.length n (bs.drop n)

/-! ## Encoding -/

def bytesOfWord (size : Nat) (highFirst : Bool) (n : Nat) : List Nat :=
  let low := (List.range size).map fun i => n / Nat.pow 256 i % 256
  if highFirst then low.reverse else low

/-- The bytes of a character; `none` if the encoding lacks it. -/
def bytesOf (e : Encoding) (c : Char) : Option (List Nat) :=
  let n := codePoint c
  match e with
  | .utf8 _ => if isHalf n then none else some ((String.singleton c).toUTF8.toList.map UInt8.toNat)
  | .ascii => if n < 128 then some [n] else none
  | .latin1 => if n < 256 then some [n] else none
  | .charset chars => (Charset.byteOf? chars c).map fun b => [b]
  | .words size order =>
    let high := order == some true
    if isHalf n then none
    else if size = 2 ∧ 0x10000 ≤ n then
      some (bytesOfWord 2 high (0xD800 + (n - 0x10000) / 1024) ++ bytesOfWord 2 high (0xDC00 + (n - 0x10000) % 1024))
    else some (bytesOfWord size high n)
  | _ => none

def isWide : Encoding → Bool
  | .words _ _ => true
  | _ => false

def encodeFrom (e : Encoding) (remedy : Remedy) : Nat → List Char → Except CodingFault (List Nat)
  | _, [] => .ok []
  | place, c :: r =>
    match bytesOf e c with
    | some bs => do
      let rest ← encodeFrom e remedy (place + 1) r
      return bs ++ rest
    | none =>
      match remedy.bytesFor? (halfForm? e) c, remedy.forChar c with
      | some bs, _ => do
        let rest ← encodeFrom e remedy (place + 1) r
        return bs ++ rest
      | none, some stand => do
        let rest ← encodeFrom e remedy (place + 1) r
        return stand.flatMap (fun c => (bytesOf e c).getD []) ++ rest
      | none, none =>
        let more := if isWide e then 0 else (r.takeWhile fun c => (bytesOf e c).isNone).length
        .error (.placed place (place + 1 + more) (lackReason e))

def markOf : Encoding → List Nat
  | .words size none => bytesOfWord size false 0xFEFF
  | .utf8 true => utf8Mark
  | _ => []

def encode (e : Encoding) (remedy : Remedy) (cs : List Char) : Except CodingFault (List Nat) :=
  match e with
  | .utf7 => .ok (Utf7.encode cs)
  | .escapes raw => .ok (Escapes.encode raw cs)
  | .punycode => .ok (Punycode.encode cs)
  | .never => .error (.whole neverReason)
  | e => do
    let bs ← encodeFrom e remedy 0 cs
    return markOf e ++ bs

end Exemplar.Text

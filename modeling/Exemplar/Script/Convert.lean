import Exemplar.Script.Errors

/-!
# Exemplar.Script.Convert — numbers, texts and bytes out of other values

Each of these classes is called with a value and, some of them, with how the value is to be read: a base for integers,
an encoding and a remedy for texts and bytes. Instances of derived classes count like the plain values that they carry.
-/

namespace Exemplar.Script

variable (t : ClassTable)

/-! ## Numbers -/

/-- How much of a value is shown where it cannot be read as an integer. -/
def shownLength : Nat := 200

/-- The integer that characters write in a base; `v` is what they stand in, as it is shown. -/
def readInteger (base : Nat) (cs : List Char) (v : StoreStep String) : Code V :=
  match Decimal.Numeral.excess? base cs, Decimal.Numeral.readInt? base cs with
  | some n, _ =>
    refuse "ValueError" ("Exceeds the limit (" ++ toString Decimal.Numeral.mostDigits ++
      " digits) for integer string conversion: value has " ++ toString n ++
      " digits; use sys.set_int_max_str_digits() to increase the limit")
  | none, some n => pure (ofInt n)
  | none, none => do
    let x ← .step v
    let start := String.ofList (x.toList.take shownLength)
    refuse "ValueError" ("invalid literal for int() with base " ++ toString base ++ ": " ++ start)

/-- The integer that a text or bytes write in a base; none for other values. -/
def integerIn? (base : Nat) (v : V) (s : Store) : Option (Code V) :=
  match s.plain v, s.bytesOf? v with
  | .text x, _ => some (readInteger base (Decimal.Numeral.plainNumeral x.toList) (shown t v))
  | _, some b => some (readInteger base (b.map Char.ofNat) (pure (Text.quotedBytes b)))
  | _, none => none

/-- The integer next to a floating-point number on the side of zero. -/
def truncated (x : Float) : Code V :=
  if x.isNaN then refuse "ValueError" "cannot convert float NaN to integer"
  else if x.isInf then refuse "OverflowError" "cannot convert float infinity to integer"
  else
    let (n, d) := Decimal.ratio x
    pure (ofInt (Int.tdiv n d))

def makeInt (v : V) : Code V := do
  let s ← store
  match s.plain v, asInt? (s.plain v), integerIn? t 10 v s with
  | _, some n, _ => pure (ofInt n)
  | .user (.float x), _, _ => truncated x
  | _, none, some read => read
  | _, none, none =>
    refuse "TypeError" ("int() argument must be a string, a bytes-like object or a real number, not '" ++
      typeName t v s ++ "'")

def makeIntIn (v base : V) : Code V := do
  let n ← needInt t base
  if n ≠ 0 ∧ n < 2 ∨ 36 < n then refuse "ValueError" "int() base must be >= 2 and <= 36, or 0"
  else
    let s ← store
    match integerIn? t n.toNat v s with
    | some read => read
    | none => refuse "TypeError" "int() can't convert non-string with explicit base"

/-- The floating-point number that characters write; `v` is what they stand in. -/
def readFloat (cs : List Char) (v : V) : Code V :=
  match Decimal.Numeral.readFloat? cs with
  | some y => pure (.user (.float y))
  | none => do
    let x ← .step (shown t v)
    refuse "ValueError" ("could not convert string to float: " ++ x)

def makeFloat (v : V) : Code V := do
  let s ← store
  match s.plain v, s.bytesOf? v with
  | .text x, _ => readFloat t (Decimal.Numeral.plainNumeral x.toList) v
  | _, some b => readFloat t (b.map Char.ofNat) v
  | w, none =>
    match ← .step (asFloat? w) with
    | some y => pure (.user (.float y))
    | none => refuse "TypeError" ("float() argument must be a string or a real number, not '" ++ typeName t v s ++ "'")

/-! ## Encodings -/

def textIn (v : V) (s : Store) : String :=
  match s.plain v with
  | .text x => x
  | _ => ""

/-- The names of encoding and remedy, for a function that takes them behind its first argument. -/
def checkEncoding (callee : String) : List (String × V) → Code Unit
  | [] => pure ()
  | (name, v) :: r => do
    needText t (callee ++ "() argument '" ++ name ++ "'") v
    let s ← store
    if (textIn v s).contains (Char.ofNat 0) then refuse "ValueError" "embedded null character"
    else checkEncoding callee r

/-- Which way a text is turned. -/
inductive Direction where
  | encoding
  | decoding
deriving DecidableEq, Repr

def Direction.errorName : Direction → String
  | .encoding => "UnicodeEncodeError"
  | .decoding => "UnicodeDecodeError"

def encodingNamed (direction : Direction) (name : String) : Code Text.Encoding :=
  match Text.Encoding.named? name with
  | some e => pure e
  | none =>
    if Text.Encoding.isOtherName name then
      let verb := if direction = .encoding then "encode" else "decode"
      refuse "LookupError" ("'" ++ name ++ "' is not a text encoding; use codecs." ++ verb ++
        "() to handle arbitrary codecs")
    else refuse "LookupError" ("unknown encoding: " ++ name)

/-- Raises an error that came up while an encoding of that name did its work. Encodings that are looked for in a table
say so. -/
def failCoding {α : Type} (direction : Direction) (name cls message : String) : Code α :=
  let work := if direction = .encoding then "encoding" else "decoding"
  refuse cls (if Text.Encoding.isCommonName name then message
    else work ++ " with '" ++ name ++ "' codec failed (" ++ cls ++ ": " ++ message ++ ")")

/-- Raises an error about a value that an encoding cannot turn. -/
def raiseCodingFault {α : Type} (direction : Direction) (name : String) (e : Text.Encoding) (v : V)
    (fault : Text.CodingFault) : Code α :=
  match fault with
  | .placed start stop reason => do
    let args : List V := [.text (e.ownName (direction = .decoding)), v, ofInt start, ofInt stop, .text reason]
    let parts := ["encoding", "object", "start", "end", "reason"].zip args
    let error ← make (.error (.named direction.errorName) args parts)
    .raise (.thrown error)
  | .whole reason => failCoding direction name "UnicodeError" reason

/-- Does a piece of work with the remedy of that name, which is looked for when there is a fault only. -/
def remedied {α : Type} (direction : Direction) (name remedy : String) (e : Text.Encoding) (v : V)
    (work : Text.Remedy → Except Text.CodingFault α) : Code α :=
  match work .strict, Text.Remedy.named? remedy with
  | .ok a, _ => pure a
  | .error (.whole reason), none => failCoding direction name "UnicodeError" reason
  | .error (.placed _ _ _), none =>
    failCoding direction name "LookupError" ("unknown error handler name '" ++ remedy ++ "'")
  | .error _, some r =>
    match work r with
    | .ok a => pure a
    | .error (.whole reason) => failCoding direction name "UnicodeError" reason
    | .error fault =>
      if r.isForChars && direction = .decoding then
        failCoding direction name "TypeError" "don't know how to handle UnicodeDecodeError in error callback"
      else raiseCodingFault direction name e v fault

def remedyIn (more : List V) (s : Store) : String :=
  match more with
  | [_, remedy] => textIn remedy s
  | _ => "strict"

def decodeBytes (v : V) (more : List V) : Code V := do
  let s ← store
  match s.plain v, s.bytesOf? v with
  | _, some [] => pure (.text "")
  | _, some b => do
    let name := textIn (more.head?.getD .absent) s
    let e ← encodingNamed .decoding name
    let faulty : V := .user (.bytes (Text.faultyBytes e b))
    let cs ← remedied .decoding name (remedyIn more s) e faulty fun r => Text.decode e r b
    pure (.text (String.ofList cs))
  | .text _, none => refuse "TypeError" "decoding str is not supported"
  | _, none => refuse "TypeError" ("decoding to str: need a bytes-like object, " ++ typeName t v s ++ " found")

def encodeText (v : V) (more : List V) : Code (List Nat) := do
  let s ← store
  match s.plain v with
  | .text x => do
    let name := textIn (more.head?.getD .absent) s
    let e ← encodingNamed .encoding name
    remedied .encoding name (remedyIn more s) e v fun r => Text.encode e r x.toList
  | _ => refuse "TypeError" "encoding without a string argument"

/-- What comes behind the value, by the names of the parameters. -/
def encodingArguments (more : List V) : List (String × V) := ["encoding", "errors"].zip more

/-- The value as text, or the text that it stands for in an encoding. -/
def makeText (v : V) (more : List V) : Code V :=
  if more.isEmpty then do
    let x ← .step (textOf t v)
    pure (.text x)
  else do
    checkEncoding t "str" (encodingArguments more)
    decodeBytes t v more

/-! ## Bytes -/

/-- What is said of a number that cannot be one of several bytes. -/
def bytesRefusal : String := "bytes must be in range(0, 256)"

/-- The value as one byte; `refusal` is what is said of a number that no byte has. -/
def makeByte (refusal : String) (v : V) : Code Nat := do
  let n ← needInt t v
  if n < 0 ∨ 255 < n then refuse "ValueError" refusal else pure n.toNat

def makeZeros (v : V) (n : Int) : Code (List Nat) := do
  let s ← store
  if !fitsIndex n then
    refuse "OverflowError" ("cannot fit '" ++ typeName t v s ++ "' into an index-sized integer")
  else if n < 0 then refuse "ValueError" "negative count"
  else if mostMembers ≤ n then .step (raiseNew "MemoryError" [])
  else pure (List.replicate n.toNat 0)

/-- The bytes that a value is, or those that stand for it in an encoding, for a class of that name; `refusal` is what it
says of a number that no byte has. -/
def makeOctets (callee refusal : String) (v : V) (more : List V) : Code (List Nat) :=
  if more.isEmpty then do
    let s ← store
    match s.plain v, s.bytesOf? v, asInt? (s.plain v) with
    | _, some b, _ => pure b
    | .text _, _, _ => refuse "TypeError" "string argument without an encoding"
    | _, none, some n => makeZeros t v n
    | _, none, none => do
      let refused : Code (List Nat) :=
        refuse "TypeError" ("cannot convert '" ++ typeName t v s ++ "' object to " ++ callee)
      let bs ← foldMembers t refused (fun bs w => do
        let b ← makeByte t refusal w
        pure (b :: bs)) [] v
      pure bs.reverse
  else do
    checkEncoding t callee (encodingArguments more)
    encodeText v more

def makeBytes (v : V) (more : List V) : Code V := do
  let bs ← makeOctets t "bytes" bytesRefusal v more
  pure (.user (.bytes bs))

/-- The value as bytes of the class `c`, which can be changed. -/
def makeBuffer (c : Cls) (v : V) (more : List V) : Code V := do
  let bs ← makeOctets t "bytearray" byteRefusal v more
  make (.buffer c bs.toArray)

end Exemplar.Script

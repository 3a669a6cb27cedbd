import Exemplar.Decimal.Numeral
import Exemplar.Script.Arith
import Exemplar.Text.Encoding

/-!
# Exemplar.Script.Show — values as they are shown, and as text

Every value has a form in which it is shown, and a text. The two differ for texts, which are shown in quotes, and for
errors, whose text is made of their arguments. A container that holds itself is cut off where it comes round again, and
so is one that comes up in code that runs while it is shown.
What the library may ask of values (`surface`) is complete with these two.
-/

namespace Exemplar.Script

/-! ## Questions without words -/

def ClassTable.info (t : ClassTable) (c : Cls) : ClassInfo :=
  ⟨t.qualifiedNameOf c, t.isAbstract c, t.signature? c⟩

def isTruthy (u : Atom) (s : Store) : Bool :=
  match s.plain (.user u) with
  | .text x => x != ""
  | .user (.int n) => n != 0
  | .user (.float x) => !(x == 0)
  | .user (.bytes b) => !b.isEmpty
  | .user (.ref i) =>
    match s.obj i with
    | .list _ vs => !vs.isEmpty
    | .tuple _ vs => !vs.isEmpty
    | .set _ _ members => !members.toList.isEmpty
    | .dict _ kvs => !kvs.isEmpty
    | .range p => p.length != 0
    | .complex _ z => !z.isZero
    | .buffer _ b => !b.isEmpty
    | _ => true
  | _ => true

def ownText? (u : Atom) (s : Store) : Option String :=
  match s.plain (.user u) with
  | .text x => some x
  | _ => none

def decoded? (u : Atom) (s : Store) : Option String :=
  (s.bytesOf? (.user u)).bind fun b => String.fromUTF8? (b.map fun n => n.toUInt8).toByteArray

def Obj.isCallable : Obj → Bool
  | .fn _ _ _ | .block _ _ | .thunk _ _ | .method _ _ | .alias _ _ _ => true
  | _ => false

def isCallable (u : Atom) (s : Store) : Bool :=
  match u with
  | .cls _ | .tool _ => true
  | .ref i => (s.obj i).isCallable
  | _ => false

def memberSignature : Member → Signature
  | .expect => ⟨[neededParam "value"]⟩
  | .expectDeferred => ⟨[neededParam "block"]⟩
  | .resolve => ⟨[neededParam "name"]⟩
  | _ => ⟨[]⟩

/-- The parameters of a callable, if it can be inspected. -/
def signatureOf? (t : ClassTable) (v : V) (s : Store) : Option Signature :=
  match v, s.objOf? v with
  | .user (.cls c), _ => t.signature? c
  | .user (.tool name), _ => toolSignature? name
  | _, some (.fn ps _ _) => some ⟨ps⟩
  | _, some (.block ps _) => some ⟨ps⟩
  | _, some (.thunk _ _) => some ⟨[]⟩
  | _, some (.method _ m) => some (memberSignature m)
  | _, some (.alias _ _ _) => some ⟨[⟨"args", .rest, false⟩, ⟨"kwargs", .keywords, false⟩]⟩
  | _, _ => none

def anonymousFunction : String := "<lambda>"

def carriedName? (t : ClassTable) (v : V) (s : Store) : Option V :=
  match v, s.objOf? v with
  | .user (.cls c), _ => some (.text (t.nameOf c))
  | .user (.tool name), _ => some (.text name)
  | .outer _, _ => some (.text "outer")
  | .subjectOf _ _, _ => some (.text anonymousFunction)
  | _, some (.plain _ name) => name
  | _, some (.fn _ _ _) | _, some (.block _ _) | _, some (.thunk _ _) => some (.text anonymousFunction)
  | _, some (.method _ m) => some (.text m.name)
  | _, some (.alias _ c _) => some (.text (t.nameOf c))
  | _, _ => none

/-- The name of one of the library's own functions in the words of a refused call. -/
def qualifiedCallee (callee : String) : String :=
  if callee = "outer" then "ScopeResolver._invoke.<locals>.outer" else "ExampleScope.is_expected.<locals>.<lambda>"

def complaintError (c : Complaint) (s : Store) : V × Store :=
  let answer := fun (cls message : String) => s.add (.error (.named cls) [.text message] [])
  match c with
  | .privateName _ | .noAttribute _ _ => answer "AttributeError" c.message
  | .missingCentre => answer "ValueError" c.message
  | .badRecord => answer "ValidationError" c.message
  | .refusedCall callee fault => answer "TypeError" (fault.message (qualifiedCallee callee))
  | .endedSequence => answer "RuntimeError" c.message
  | .tooDeep => answer "RecursionError" c.message
  | .notText _ _ | .notDeferred | .notCallable _ => answer "TypeError" c.message

/-- All questions about values, once it is known how values are shown and what their texts are. -/
def surfaceWith (t : ClassTable) (repr str : V → StoreStep String) : Surface Atom Store where
  repr := repr
  str := str
  typeName := typeName t
  truthy := isTruthy
  callable := isCallable
  signature? := signatureOf? t
  class? := fun v _ => match v with
    | .user (.cls c) => some (t.info c)
    | _ => none
  nameOf? := carriedName? t
  ownText? := ownText?
  decoded? := decoded?
  items? := fun v s => match s.objOf? v with
    | some (.tuple _ vs) => some vs
    | _ => none
  key := keyOf t
  equal := equal t
  identical := fun a b _ => identical a b
  isInstance := isInstance t
  minus := subtract t
  magnitude := magnitude t
  atMost := less t true
  kind := kindOf t
  endsSequence := fun v s => t.isSubclass (classOf t v s) (.named "StopIteration")
  catches := catches t
  complaint := complaintError

/-! ## Rendering -/

/-- The two forms of a value. -/
inductive Form where
  | shown
  | plain
deriving DecidableEq, Repr

/-- The form that the definition of a class gives its instances, if it gives one. A definition that asks for an error
instead leaves it to a function that raises it. -/
def givenForm? (t : ClassTable) (around : List Nat) (c : Cls) : Option (StoreStep String) :=
  (t.shownBy? c).map fun d =>
    match d.showRaises with
    | some e => do
      let f ← alloc (.refusal e around)
      Action.raise (.unshowable f false)
    | none => pure (d.shown.getD ("<" ++ d.name ++ ">"))

/-- An integer in digits, of which there must not be too many. -/
def integerText (n : Int) : StoreStep String :=
  match Decimal.Numeral.writeInt? n with
  | some x => pure x
  | none => complain "ValueError" ("Exceeds the limit (" ++ toString Decimal.Numeral.mostDigits ++
      " digits) for integer string conversion; use sys.set_int_max_str_digits() to increase the limit")

/-- A progression; a step of one goes without saying. -/
def progressionText (p : Progression) : StoreStep String := do
  let texts ← Surface.each integerText ([p.start, p.stop] ++ if p.step = 1 then [] else [p.step])
  pure ("range(" ++ ", ".intercalate texts ++ ")")

/-- A sequence between brackets; a comma marks a tuple of one member. -/
def parenthesized : List String → String
  | [one] => "(" ++ one ++ ",)"
  | texts => "(" ++ ", ".intercalate texts ++ ")"

def braced (texts : List String) : String := "\x7b" ++ ", ".intercalate texts ++ "\x7d"

/-- The members of a set, which are told apart from those of a table even if there are none; the class is named unless
it is that of changeable sets itself. -/
def setText (c : Cls) (name : String) (texts : List String) : String :=
  if texts.isEmpty then name ++ "()"
  else if c == .named "set" then braced texts
  else name ++ "(" ++ braced texts ++ ")"

/-- What a handle stands for, as it is shown. -/
def handleText : Handle → String
  | .level .user => "<ErrorLevel.USER: 'user'>"
  | .level .developer => "<ErrorLevel.DEVELOPER: 'developer'>"
  | .resolver _ => "<ScopeResolver object>"
  | .context _ => "<ErrorContext object>"

/-! ## Errors with a text of their own -/

/-- The text of an error of the system, if it tells its number; `shown` and `plain` are the forms of its parts. -/
def systemText? (parts : List (String × V)) (shown plain : V → StoreStep String) : Option (StoreStep String) :=
  match partNamed? "errno" parts, partNamed? "strerror" parts with
  | some number, some reason => some do
    let number ← plain number
    let reason ← plain reason
    let head := "[Errno " ++ number ++ "] " ++ reason
    match partNamed? "filename" parts, partNamed? "filename2" parts with
    | some one, some two => do
      let one ← shown one
      let two ← shown two
      pure (head ++ ": " ++ one ++ " -> " ++ two)
    | some one, none => do
      let one ← shown one
      pure (head ++ ": " ++ one)
    | none, _ => pure head
  | _, _ => none

def fileOf (path : String) : String :=
  String.ofList (path.toList.reverse.takeWhile (· != '/')).reverse

/-- The text of an error of grammar: its message, with file and line where they are known. -/
def grammarText (parts : List (String × V)) (plain : V → StoreStep String) : StoreStep String := do
  let s ← Action.get
  let message ← plain ((partNamed? "msg" parts).getD .absent)
  let file := match (partNamed? "filename" parts).map s.plain with
    | some (.text x) => some (fileOf x)
    | _ => none
  let line := match partNamed? "lineno" parts with
    | some (.user (.int n)) => some ("line " ++ toString n)
    | _ => none
  let known := file.toList ++ line.toList
  pure (if known.isEmpty then message else message ++ " (" ++ ", ".intercalate known ++ ")")

/-- The words for what could not be turned: one thing at its place, or several. -/
def codingPlace (one many : String) (start stop : Int) (things : List String) : String :=
  match (if stop = start + 1 ∧ 0 ≤ start then things[start.toNat]? else none) with
  | some thing => one ++ " " ++ thing ++ " in position " ++ toString start
  | none => many ++ " in position " ++ toString start ++ "-" ++ toString (stop - 1)

/-- A character that could not be turned, as it is told. -/
def codingChar (c : Char) : String := "'" ++ String.ofList (Text.numericEscape (Text.codePoint c)) ++ "'"

/-- A byte that could not be turned, as it is told. -/
def codingByte (n : Nat) : String := "0x" ++ String.ofList (Text.hexText 2 n)

/-- The text of an error of encoding or decoding. -/
def codingText (parts : List (String × V)) (plain : V → StoreStep String) : StoreStep String := do
  let s ← Action.get
  let part := fun (name : String) => (partNamed? name parts).getD .absent
  let place := fun (name : String) => (asInt? (s.plain (part name))).getD 0
  let reason ← plain (part "reason")
  let words := fun (verb one many : String) (things : List String) =>
    "can't " ++ verb ++ " " ++ codingPlace one many (place "start") (place "end") things ++ ": " ++ reason
  match partNamed? "object" parts, partNamed? "encoding" parts with
  | some v, some encoding => do
    let encoding ← plain encoding
    pure ("'" ++ encoding ++ "' codec " ++ match s.bytesOf? v, s.plain v with
      | some b, _ => words "decode" "byte" "bytes" (b.map codingByte)
      | _, .text x => words "encode" "character" "characters" (x.toList.map codingChar)
      | _, _ => "")
  | some v, none =>
    pure <| match s.plain v with
      | .text x => words "translate" "character" "characters" (x.toList.map codingChar)
      | _ => ""
  | none, _ => pure ""

/-- The text of a group of errors: its message and how many there are. -/
def groupText (parts : List (String × V)) (plain : V → StoreStep String) : StoreStep String := do
  let message ← plain ((partNamed? "message" parts).getD .absent)
  let n := match partNamed? "count" parts with
    | some (.user (.int n)) => n
    | _ => 0
  pure (message ++ " (" ++ toString n ++ " sub-exception" ++ (if n = 1 then "" else "s") ++ ")")

/-- The text of an error whose class has a form of its own for it. -/
def ownErrorText? (t : ClassTable) (c : Cls) (parts : List (String × V)) (shown plain : V → StoreStep String) :
    Option (StoreStep String) :=
  if t.isSubclass c (.named "OSError") then systemText? parts shown plain
  else if t.isSubclass c (.named "SyntaxError") then some (grammarText parts plain)
  else if ["UnicodeDecodeError", "UnicodeEncodeError", "UnicodeTranslateError"].any fun s => t.isSubclass c (.named s)
    then some (codingText parts plain)
  else if t.isSubclass c (.named "BaseExceptionGroup") then some (groupText parts plain)
  else none

/-! ## Both forms -/

/-- Named parts, each shown behind its name. -/
def eachNamed (shown : V → StoreStep String) (parts : List (String × V)) : StoreStep (List String) :=
  Surface.each (fun p => do
    let x ← shown p.2
    pure (p.1 ++ "=" ++ x)) parts

/-- The form of an error's text; of one with a single argument it is the argument's, shown where a key was missed. -/
def argumentForm (t : ClassTable) (c : Cls) : Form :=
  if t.isSubclass c (.named "KeyError") then .shown else .plain

/-- A value in one of its forms, at most `n` objects deep; `around` holds the objects that it is part of. -/
def render (t : ClassTable) : Nat → Form → List Nat → V → StoreStep String
  | 0, _, _, _ => Action.exhausted
  | n + 1, form, around, v =>
    match v with
    | .absent => pure "None"
    | .flag b => pure (if b then "True" else "False")
    | .text s => pure (if form = .plain then s else Text.quoted s)
    | .scope _ => pure "<ExampleScope object>"
    | .builder _ => pure "<GroupBuilder object>"
    | .subjectOf _ _ | .outer _ => pure "<function>"
    | .user (.int k) => integerText k
    | .user (.float x) => pure (Decimal.text x)
    | .user (.bytes b) => pure (Text.quotedBytes b)
    | .user (.cls c) => pure (t.shown c)
    | .user (.handle h) => pure (handleText h)
    | .user (.tool name) => pure ("<built-in function " ++ name ++ ">")
    | .user (.ref i) => do
      let s ← Action.get
      let o := s.obj i
      let inside := render t n .shown (i :: around)
      let asText := render t n .plain (i :: around)
      let unlessGiven := fun (x : StoreStep String) => (givenForm? t around o.cls).getD x
      match o with
      | .list _ vs => unlessGiven do
        if around.contains i then pure "[...]"
        else do
          let texts ← Surface.each inside vs.toList
          pure ("[" ++ ", ".intercalate texts ++ "]")
      | .tuple _ vs => unlessGiven do
        if around.contains i then pure "(...)"
        else do
          let texts ← Surface.each inside vs
          pure (parenthesized texts)
      | .dict _ kvs => unlessGiven do
        if around.contains i then pure (braced ["..."])
        else do
          let texts ← Surface.each (fun kv => do
            let key ← inside kv.1
            let value ← inside kv.2
            pure (key ++ ": " ++ value)) kvs
          pure (braced texts)
      | .set c _ members => unlessGiven do
        if around.contains i then pure (t.nameOf c ++ "(...)")
        else do
          let texts ← Surface.each inside members.toList
          pure (setText c (t.nameOf c) texts)
      | .scalar _ w =>
        match form, w with
        | .plain, .text x => pure x
        | .plain, .user (.bytes b) => pure (Text.quotedBytes b)
        | _, w => unlessGiven (render t n .shown around w)
      | .range p => progressionText p
      | .complex _ z => unlessGiven (pure z.text)
      | .buffer c b => unlessGiven (pure (t.nameOf c ++ "(" ++ Text.quotedBytes b.toList ++ ")"))
      | .cut a b c => do
        let texts ← Surface.each inside [a, b, c]
        pure ("slice(" ++ ", ".intercalate texts ++ ")")
      | .stream c _ _ => unlessGiven (pure ("<" ++ t.nameOf c ++ " object>"))
      | .alias unpacked c params => do
        let texts ← Surface.each (fun p => match p with
          | .user (.cls d) => pure (t.pathOf d)
          | p => inside p) params
        let body := if texts.isEmpty then "()" else ", ".intercalate texts
        pure ((if unpacked then "*" else "") ++ t.pathOf c ++ "[" ++ body ++ "]")
      | .plain shown _ => pure shown
      | .inst c => unlessGiven (pure ("<" ++ t.nameOf c ++ ">"))
      | .error c args parts =>
        match form, ownErrorText? t c parts inside asText, args with
        | .shown, _, [a] => unlessGiven do
          let x ← inside a
          pure (t.nameOf c ++ "(" ++ x ++ ")")
        | .shown, _, args => unlessGiven do
          if around.contains i then pure (t.nameOf c ++ "(...)")
          else do
            let texts ← Surface.each inside args
            pure (t.nameOf c ++ "(" ++ ", ".intercalate texts ++ ")")
        | .plain, some text, _ => text
        | .plain, none, [] => pure ""
        | .plain, none, [a] => render t n (argumentForm t c) (i :: around) a
        | .plain, none, args => do
          if around.contains i then pure "(...)"
          else do
            let texts ← Surface.each inside args
            pure (parenthesized texts)
      | .matcher c => (surfaceWith t inside asText).matcherRepr ⟨v, c⟩
      | .custom name _ _ => pure ("<matcher " ++ name ++ ">")
      | .fn _ _ _ | .block _ _ | .thunk _ _ | .refusal _ _ => pure "<function <lambda>>"
      | .target _ => pure "<ExpectationTarget object>"
      | .method _ _ => pure "<bound method>"
      | .example description pending => do
        let texts ← eachNamed inside [("description", description), ("pending_message", pending)]
        pure (t.nameOf o.cls ++ "(" ++ ", ".intercalate texts ++ ")")
      | .verdict r => do
        let texts ← eachNamed inside (partsOfVerdict r)
        pure (if form = .plain then " ".intercalate texts else t.nameOf o.cls ++ "(" ++ ", ".intercalate texts ++ ")")
      | .other typeName => pure ("<" ++ typeName ++ " object>")

/-- A value in one of its forms. Between two visits of an object on one way there is a list, and no list is entered
twice, so twice the number of objects is deep enough. -/
def renderWhole (t : ClassTable) (form : Form) (v : V) : StoreStep String := do
  let s ← Action.get
  render t (2 * s.heap.size + 2) form s.showing v

def shown (t : ClassTable) (v : V) : StoreStep String := renderWhole t .shown v

def textOf (t : ClassTable) (v : V) : StoreStep String := renderWhole t .plain v

def surface (t : ClassTable) : Surface Atom Store := surfaceWith t (shown t) (textOf t)

end Exemplar.Script

import Exemplar.World

/-!
# Exemplar.Surface — what the library asks of values

`Surface` lists the questions about values that only the specification's own side can answer: their texts, their
truth, their equality, their classes. From the answers this file derives how a value describes a group, what counts
as true, and how errors are put into words. None of it runs the code of a specification.
-/

namespace Exemplar

/-- What is known of a class. A class that cannot be inspected has no signature. -/
structure ClassInfo where
  qualifiedName : String
  isAbstract : Bool
  signature? : Option Signature
deriving Repr

/-- The questions about values. -/
structure Surface (U S : Type) where
  /-- The value as it is shown in messages. -/
  repr : Value U → Step U S String
  /-- The value as text. -/
  str : Value U → Step U S String
  /-- The name of the value's type. -/
  typeName : Value U → S → String
  /-- The value counts as true. -/
  truthy : U → S → Bool
  /-- The value can be called. -/
  callable : U → S → Bool
  /-- The parameters of a callable, if it can be inspected. -/
  signature? : Value U → S → Option Signature
  /-- What is known of the value as a class, if it is one. -/
  class? : Value U → S → Option ClassInfo
  /-- The name that the value carries, if any. -/
  nameOf? : Value U → S → Option (Value U)
  /-- The text that the value is. -/
  ownText? : U → S → Option String
  /-- The text that the value encodes, if it is an encoded text. -/
  decoded? : U → S → Option String
  /-- The members of a tuple. -/
  items? : Value U → S → Option (List (Value U))
  /-- The key under which the value is found in a table. -/
  key : Value U → Step U S String
  equal : Value U → Value U → Step U S Bool
  identical : Value U → Value U → S → Bool
  /-- The first value is an instance of the class, or of one of the classes. -/
  isInstance : Value U → Value U → Step U S Bool
  minus : Value U → Value U → Step U S (Value U)
  magnitude : Value U → Step U S (Value U)
  atMost : Value U → Value U → Step U S Bool
  /-- What a raised value means. -/
  kind : Value U → S → Kind
  /-- The raised value says that a sequence has no more members. -/
  endsSequence : Value U → S → Bool
  /-- The first value, a class, takes in the raised second one. -/
  catches : Value U → Value U → Step U S Bool
  /-- The error that answers a misuse. -/
  complaint : Complaint → S → Value U × S

namespace Surface

variable {U S α : Type} (sf : Surface U S)

/-! ## Raising -/

def complain (c : Complaint) : Step U S α := fun s =>
  let (v, s) := sf.complaint c s
  (.raised (.raised (.thrown v)), s)

/-! ## Truth and text -/

def holds (v : Value U) (s : S) : Bool :=
  match v with
  | .absent => false
  | .flag b => b
  | .text t => t != ""
  | .user u => sf.truthy u s
  | _ => true

def isCallable (v : Value U) (s : S) : Bool :=
  match v with
  | .user u => sf.callable u s
  | .outer _ | .subjectOf _ _ => true
  | _ => false

def text? (v : Value U) (s : S) : Option String :=
  match v with
  | .text t => some t
  | .user u => sf.ownText? u s
  | _ => none

/-- The value describes a target: it is neither absent nor a text. -/
def describesTarget (v : Value U) (s : S) : Bool :=
  !v.isAbsent && (sf.text? v s).isNone

/-- The value as text; a text stands for itself. -/
def textOf (v : Value U) : Step U S String :=
  match v with
  | .text t => pure t
  | v => sf.str v

/-- The text that a record keeps of a value: a text itself, or the one that the value encodes. -/
def recordText? (v : Value U) (s : S) : Option String :=
  match v with
  | .text t => some t
  | .user u => (sf.ownText? u s).orElse fun _ => sf.decoded? u s
  | _ => none

/-- The texts that the values are; another value among them is a misuse, told by its place in the list. -/
def textsOf (vs : List (Value U)) : Step U S (List String) :=
  go 0 vs
where
  /-- The texts from place `i` on. -/
  go (i : Nat) : List (Value U) → Step U S (List String)
    | [] => pure []
    | v :: r => do
      let s ← Action.get
      match sf.text? v s with
      | some t => do
        let ts ← go (i + 1) r
        pure (t :: ts)
      | none => sf.complain (.notText i (sf.typeName v s))

/-- Applies `f` to the values from left to right. -/
def each {α β : Type} (f : α → Step U S β) : List α → Step U S (List β)
  | [] => pure []
  | a :: r => do
    let b ← f a
    let bs ← each f r
    pure (b :: bs)

/-- Goes through a list with what has come of it so far. -/
def foldSteps {α β : Type} (f : β → α → Step U S β) : List α → β → Step U S β
  | [], b => pure b
  | a :: r, b => do
    let b ← f b a
    foldSteps f r b

/-- Applies `f` to the values of a sequence that is being made. The making cannot be ended by an error that says so
of another sequence; such an error is a misuse. -/
def sequenceOf {α β : Type} (f : α → Step U S β) (l : List α) : Step U S (List β) := do
  match ← Action.attempt (each f l) with
  | .ok bs => pure bs
  | .error (.raised (.thrown v)) => do
    let s ← Action.get
    if sf.endsSequence v s then sf.complain .endedSequence else Step.raise (.thrown v)
  | .error (.unshowable f _) => Action.raise (.unshowable f true)
  | .error r => Action.raise r

/-- The member of a class or a function that holds its name. -/
def nameMember : String := "__name__"

/-- The name that the value carries; a value without one is a misuse, and a scope keeps its own to itself. -/
def nameOf (v : Value U) : Step U S (Value U) := do
  let s ← Action.get
  match sf.nameOf? v s, v with
  | some n, _ => pure n
  | none, .scope _ => sf.complain (.privateName nameMember)
  | none, v => sf.complain (.noAttribute (sf.typeName v s) nameMember)

/-! ## Descriptions -/

/-- The text by which a value describes a group: nothing for the absent value, a text itself, a class by its
qualified name, and any other value by the name it carries or else as it is shown. -/
def describe (v : Value U) : Step U S String :=
  match v with
  | .absent => pure ""
  | .text t => pure t
  | v => do
    let s ← Action.get
    match sf.text? v s, sf.class? v s with
    | some t, _ => pure t
    | none, some c => pure c.qualifiedName
    | none, none =>
      match (sf.nameOf? v s).bind fun n => sf.text? n s with
      | some n => pure n
      | none => sf.repr v

def groupText (f : Forest (Value U)) (id : Nat) : Step U S String :=
  match f.group? id with
  | some g => sf.describe g.description
  | none => pure ""

/-- The description of the group as a part of a longer text, if it is not empty. To see whether it is empty it is
rendered once, and to stand in the text once more. -/
def pathPart (f : Forest (Value U)) (id : Nat) : Step U S (List String) := do
  let text ← sf.groupText f id
  if text = "" then pure []
  else
    let text ← sf.groupText f id
    pure [text]

/-- The descriptions from the root down to the group, without the empty ones, joined by spaces. -/
def fullText (f : Forest (Value U)) (id : Nat) : Step U S String := do
  let parts ← sf.sequenceOf (sf.pathPart f) (f.ancestors id)
  pure (" ".intercalate parts.flatten)

/-- The name of an example that has neither a description nor a described group around it. -/
def anonymousExample : String := "anonymous example"

/-- The name an example is reported under: its description, or else its group's full text. -/
def displayName (f : Forest (Value U)) (e : Example (Value U)) : Step U S (Value U) := do
  let s ← Action.get
  if sf.holds e.description s then pure e.description
  else
    let path ← sf.fullText f e.group
    pure (.text (if path = "" then anonymousExample else path))

/-! ## Described targets -/

/-- The value is a class that can be called without arguments. A class that cannot be inspected is taken for one. -/
def isConstructible (v : Value U) (s : S) : Bool :=
  match sf.class? v s with
  | none => false
  | some c =>
    !c.isAbstract && match c.signature? with
      | none => true
      | some sig => sig.needsNothing

/-! ## Errors in words -/

def kindOf (e : Exn (Value U)) (s : S) : Kind :=
  match e with
  | .authoring _ => .authoring
  | .failure _ => .failure
  | .fault _ _ => .fault
  | .exit _ => .exit
  | .thrown v => sf.kind v s

def errorText (e : Exn (Value U)) : Step U S String :=
  match e with
  | .authoring a => pure a.message
  | .failure message => sf.textOf message
  | .fault text _ => pure text
  | .exit code => pure (toString code)
  | .thrown v => sf.textOf v

/-- A raised value by the name of its type and its text. -/
def describeFault (v : Value U) : Step U S String := do
  let text ← sf.textOf v
  let s ← Action.get
  pure (faultText (sf.typeName v s) text)

/-! ## Matchers in words -/

/-- What a matcher expects, phrased to follow "expected … to"; a custom one is shown as the value it is. -/
def matcherText (m : Matcher (Value U)) : Step U S String :=
  match m.criterion with
  | .equalTo e => do
    let t ← sf.repr e
    pure ("eq " ++ t)
  | .same e => do
    let t ← sf.repr e
    pure ("be " ++ t)
  | .instanceOf c => do
    let s ← Action.get
    match sf.items? c s with
    | some cs =>
      let names ← each sf.nameOf cs
      let texts ← sf.textsOf names
      pure ("be an instance of one of (" ++ ", ".intercalate texts ++ ")")
    | none =>
      let name ← sf.nameOf c
      let text ← sf.textOf name
      pure ("be an instance of " ++ text)
  | .within delta centre => do
    let d ← sf.repr delta
    let c ← sf.repr centre
    pure ("be within " ++ d ++ " of " ++ c)
  | .includes items => do
    let texts ← sf.sequenceOf sf.repr items
    pure ("include " ++ ", ".intercalate texts)
  | .found p => pure ("match /" ++ p.source ++ "/")
  | .satisfies _ label => do
    let s ← Action.get
    if sf.holds label s then
      let t ← sf.textOf label
      pure ("satisfy " ++ t)
    else pure "satisfy the given predicate"
  | .raises _ expected message => do
    let name ← sf.nameOf expected
    let text ← sf.textOf name
    if message.isAbsent then pure ("raise " ++ text)
    else
      let m ← sf.repr message
      pure ("raise " ++ text ++ " with message " ++ m)
  | .own => sf.repr m.value

def matcherRepr (m : Matcher (Value U)) : Step U S String :=
  match m.criterion with
  | .own => sf.repr m.value
  | c => do
    let t ← sf.matcherText m
    pure ("<" ++ c.sort ++ " " ++ t ++ ">")

end Surface
end Exemplar

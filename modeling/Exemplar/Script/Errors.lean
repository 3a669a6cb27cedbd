import Exemplar.Script.Member

/-!
# Exemplar.Script.Errors — making errors

Most errors keep their arguments and nothing else. Errors of the system, of grammar and of encoding also take their
arguments apart, groups check that they consist of errors, and the library's own errors put a message together, with
the place where they surfaced below it.
-/

namespace Exemplar.Script

variable (t : ClassTable)

def countRefused {α : Type} (words : String) (given : Nat) : Code α :=
  refuse "TypeError" (words ++ " (" ++ toString given ++ " given)")

/-- The name of a value's type where an argument of another type was wanted. -/
def argumentType (v : V) (s : Store) : String := if v.isAbsent then "None" else typeName t v s

def needText (words : String) (v : V) : Code Unit := do
  let s ← store
  match s.plain v with
  | .text _ => pure ()
  | _ => refuse "TypeError" (words ++ " must be str, not " ++ argumentType t v s)

def needInt (v : V) : Code Int := do
  let s ← store
  match asInt? (s.plain v) with
  | some n => pure n
  | none => refuse "TypeError" ("'" ++ typeName t v s ++ "' object cannot be interpreted as an integer")

/-! ## Errors of the system -/

/-- The classes that the general class of system errors stands back for, by the number of the error. -/
def systemErrorNumbers : List (Int × String) := [
  (11, "BlockingIOError"), (114, "BlockingIOError"), (115, "BlockingIOError"), (32, "BrokenPipeError"),
  (108, "BrokenPipeError"), (10, "ChildProcessError"), (103, "ConnectionAbortedError"),
  (111, "ConnectionRefusedError"), (104, "ConnectionResetError"), (17, "FileExistsError"), (2, "FileNotFoundError"),
  (21, "IsADirectoryError"), (20, "NotADirectoryError"), (4, "InterruptedError"), (13, "PermissionError"),
  (1, "PermissionError"), (3, "ProcessLookupError"), (110, "TimeoutError")]

/-- The class that an error of the system with this number belongs to. -/
def systemErrorClass (c : Cls) (number : V) : Cls :=
  if c == .named "OSError" then
    match (asInt? number).bind fun n => (systemErrorNumbers.find? (·.1 == n)).map (·.2) with
    | some name => .named name
    | none => c
  else c

/-- An error of the system. With two to five arguments it has a number and a reason; the names of files among them are
taken out, unless the third one tells how much was written before the system would have had to wait. -/
def makeSystemError (c : Cls) (args : List V) : Code V := do
  let s ← store
  match args with
  | number :: reason :: more =>
    if 3 < more.length then make (.error c args [])
    else
      let c := systemErrorClass c (s.plain number)
      let known := [("errno", number), ("strerror", reason)]
      let present := fun (i : Nat) => (more[i]?).filter fun v => !v.isAbsent
      match present 0 with
      | none => make (.error c args known)
      | some file =>
        if c == .named "BlockingIOError" && (isNumber (s.plain file) || (s.complexOf? file).isSome) then do
          let n ← needInt t file
          if fitsIndex n then make (.error c args known)
          else refuse "ValueError" ("cannot fit '" ++ typeName t file s ++ "' into an index-sized integer")
        else
          let second := ((present 2).map fun v => ("filename2", v)).toList
          make (.error c [number, reason] (known ++ [("filename", file)] ++ second))
  | args => make (.error c args [])

/-! ## Errors of grammar and of encoding -/

/-- An error of grammar; a second argument tells file, line and more. -/
def makeGrammarError (c : Cls) (args : List V) : Code V := do
  let message := (args.head?.map fun v => ("msg", v)).toList
  match args with
  | [_, place] => do
    let parts ← iterate t place
    if parts.length < 4 then countRefused "function takes at least 4 arguments" parts.length
    else if 6 < parts.length then countRefused "function takes at most 6 arguments" parts.length
    else if parts.length = 5 then refuse "TypeError" "end_offset must be provided when end_lineno is provided"
    else make (.error c args (message ++ ["filename", "lineno"].zip parts))
  | args => make (.error c args message)

/-- The value has to be a number that can name a place. -/
def needPlace (v : V) : Code Unit := do
  let n ← needInt t v
  if fitsIndex n then pure () else refuse "OverflowError" "Python int too large to convert to C ssize_t"

/-- An error of encoding, decoding or mapping text, in that order of names; each argument has its own type. -/
def makeCodingError (c : Cls) (sort : String) (args : List V) : Code V := do
  let names := ["encoding", "object", "start", "end", "reason"]
  let names := if sort = "UnicodeTranslateError" then names.tail else names
  if args.length != names.length then
    countRefused ("function takes exactly " ++ toString names.length ++ " arguments") args.length
  else
    let parts := names.zip args
    let _ ← eachOf (fun (p : (String × V) × Nat) =>
      let ((name, v), i) := p
      if name = "start" ∨ name = "end" then needPlace t v
      else if name = "object" ∧ sort = "UnicodeDecodeError" then pure ()
      else needText t ("argument " ++ toString (i + 1)) v) parts.zipIdx
    let s ← store
    match sort, (partNamed? "object" parts).bind s.bytesOf? with
    | "UnicodeDecodeError", some _ => make (.error c args parts)
    | "UnicodeDecodeError", none =>
      let v := (partNamed? "object" parts).getD .absent
      refuse "TypeError" ("a bytes-like object is required, not '" ++ typeName t v s ++ "'")
    | _, _ => make (.error c args parts)

/-! ## Groups of errors -/

def isSequence (v : V) (s : Store) : Bool :=
  match s.plain v, s.objOf? v with
  | .text _, _ | .user (.bytes _), _ | .scope _, _ => true
  | _, some (.list _ _) | _, some (.tuple _ _) | _, some (.range _) | _, some (.buffer _ _) => true
  | _, _ => false

/-- The first member that is no error, by its place. -/
def firstStranger? (vs : List V) (s : Store) : Option Nat :=
  vs.findIdx? fun v => !t.isError (classOf t v s)

/-- The class of a group: one of errors that no program has to stop for is told apart, and a class of such groups takes
no others. -/
def groupClass (c : Cls) (allOrdinary : Bool) : Code Cls :=
  if allOrdinary then pure (if c == .named "BaseExceptionGroup" then .named "ExceptionGroup" else c)
  else if c == .named "ExceptionGroup" then refuse "TypeError" "Cannot nest BaseExceptions in an ExceptionGroup"
  else if t.isSubclass c (.named "Exception") then
    refuse "TypeError" ("Cannot nest BaseExceptions in '" ++ t.nameOf c ++ "'")
  else pure c

def makeErrorGroup (c : Cls) (args : List V) : Code V := do
  let callee := "BaseExceptionGroup.__new__()"
  let s ← store
  match args with
  | [message, errors] => do
    needText t (callee ++ " argument 1") message
    if !isSequence errors s then refuse "TypeError" "second argument (exceptions) must be a sequence"
    else
      let vs ← iterate t errors
      if vs.isEmpty then refuse "ValueError" "second argument (exceptions) must be a non-empty sequence"
      else
        let s ← store
        match firstStranger? t vs s with
        | some i =>
          refuse "ValueError" ("Item " ++ toString i ++ " of second argument (exceptions) is not an exception")
        | none => do
          let c ← groupClass t c (vs.all fun v => t.isSubclass (classOf t v s) (.named "Exception"))
          make (.error c args [("message", message), ("count", ofInt vs.length)])
  | args => countRefused (callee ++ " takes exactly 2 arguments") args.length

/-! ## Known errors -/

/-- The class of errors of encoding, decoding or mapping text that the class belongs to. -/
def codingSort? (c : Cls) : Option String :=
  ["UnicodeDecodeError", "UnicodeEncodeError", "UnicodeTranslateError"].find? fun s => t.isSubclass c (.named s)

/-- An error of a class that is not the library's own. -/
def makeKnownError (c : Cls) (args : List V) : Code V :=
  match codingSort? t c with
  | some sort => makeCodingError t c sort args
  | none =>
    if t.isSubclass c (.named "OSError") then makeSystemError t c args
    else if t.isSubclass c (.named "SyntaxError") then makeGrammarError t c args
    else if t.isSubclass c (.named "BaseExceptionGroup") then makeErrorGroup t c args
    else make (.error c args [])

/-- An error of a class with a constructor of its own, which does not pass its arguments on. -/
def makeBareError (c : Cls) (args : List V) : Code V :=
  if t.isSubclass c (.named "OSError") then make (.error c [] [])
  else if t.isSubclass c (.named "BaseExceptionGroup") then makeErrorGroup t c args
  else make (.error c args [])

/-! ## The library's own errors -/

/-- The parts of an error that can be read off it again. -/
def readableParts : List String := ["helper_name", "cycle", "reason", "group_path"]

/-- What an authoring error made with these arguments is about; `none` if its message is its first argument. -/
def causeOf (name : String) (args : List V) : Code (Option AuthoringCause) := do
  let first := args.head?.getD .absent
  let firstText : Code String := .step (textOf t first)
  match name with
  | "UndefinedDescribedTargetError" => pure (some .undefinedTarget)
  | "OverrideWithoutAncestorError" => do
    let x ← firstText
    pure (some (.overrideWithoutAncestor x))
  | "UndefinedHelperError" => do
    let x ← firstText
    pure (some (.undefinedHelper x))
  | "CircularHelperError" => do
    let vs ← iterateOr t (refuse "TypeError" "can only join an iterable") first
    let texts ← .step ((surface t).textsOf vs)
    pure (some (.circularHelper texts))
  | "InvalidHelperNameError" => do
    let x ← firstText
    let reason ← .step (textOf t ((args[1]?).getD .absent))
    pure (some (.invalidHelperName x reason))
  | "GroupSealedError" => do
    let x ← firstText
    pure (some (.sealedGroup x))
  | _ => pure none

/-- The name of the member by which a context tells a place. -/
def placeMember : String := "format_location"

/-- The place that a context tells in so much detail: a known one, or any value that is asked for it. -/
def placeOf (context detail : V) : Code V := do
  let s ← store
  match context, detail with
  | .user (.handle (.context c)), .user (.handle (.level d)) => pure (.text (c.location d))
  | .user (.handle (.context c)), _ => pure (.text (c.location .user))
  | v, detail =>
    if !(surface t).holds v s then pure .absent
    else
      let g ← member t v placeMember
      callValue g [detail]

/-- The message of an authoring error: a value that is no text stays as it is, unless a place follows it. -/
def authoringMessage (cause : Option AuthoringCause) (first place : V) : Code V := do
  let s ← store
  let bare := match cause with
    | some cause => .text cause.message
    | none => first
  if !(surface t).holds place s then pure bare
  else
    let x ← .step (textOf t bare)
    let y ← .step (textOf t place)
    pure (.text (x ++ "\n" ++ y))

/-- The parts of an authoring error that tell its place. -/
def contextPart : String := "context"

/-- The part of an authoring error that tells in how much detail its place is written. -/
def detailPart : String := "error_level"

/-- An error of the library's own, of the class `c` and made like the known class of that name. -/
def makeOwnError (c : Cls) (name : String) (args : List V) (keywords : List (String × V)) : Code V := do
  let ps := (errorParams? name).getD []
  let callee := name ++ ".__init__"
  bindKeywords callee (neededParam "self" :: ps) (args.length + 1) (keywords.map (·.1))
  bindArguments callee (neededParam "self" :: ps) (args.length + 1)
  match name with
  | "ExpectationFailure" => make (.error c (args.take 1) [])
  | "Fault" => do
    let text ← .step ((surface t).describeFault (args.head?.getD .absent))
    make (.error c [.text text] [])
  | _ => do
    let given := (ps.map (·.name)).zip args ++ keywords
    let cause ← causeOf t name args
    let context := (partNamed? contextPart given).getD .absent
    let detail := (partNamed? detailPart given).getD (.user (.handle (.level .user)))
    let place ← placeOf t context detail
    let message ← authoringMessage t cause (args.head?.getD .absent) place
    let readable := given.filter fun p => readableParts.contains p.1
    make (.error c [message] (readable ++ [(contextPart, context), (detailPart, detail)]))

end Exemplar.Script

import Exemplar.HelperName
import Exemplar.Signature

/-!
# Exemplar.Error — what can be raised, and in which words

Three families: authoring errors, which say that the declarations themselves are wrong; the two endings of an
example that an expectation brings about; and whatever the code of a specification raises of its own. `Kind` is
what the rest of the library asks of a raised error.

* `Context.lines_eq_nil_iff`: an authoring error has no location lines exactly when nothing is known of its place.
-/

namespace Exemplar

/-! ## Where an error surfaced -/

/-- For whom a location is written. -/
inductive Detail where
  | user
  | developer
deriving DecidableEq, Repr

def Detail.word : Detail → String
  | .user => "user"
  | .developer => "developer"

def Detail.named? (s : String) : Option Detail := [Detail.user, .developer].find? (·.word == s)

/-- What is known of the place where an authoring error surfaced; an empty text counts as unknown. -/
structure Context where
  groupPath : Option String
  helperName : Option String
  exampleDescription : Option String
  sourceFile : Option String
  sourceLine : Option String
deriving DecidableEq, Repr

namespace Context

def known (t : Option String) : Option String :=
  t.filter (· != "")

/-- The line of the place where the helper was defined; it needs both the file and the line. -/
def sourceText (c : Context) : Option String :=
  match known c.sourceFile, known c.sourceLine with
  | some file, some line => some ("  defined at " ++ file ++ ":" ++ line)
  | _, _ => none

def lines (c : Context) (detail : Detail) : List String :=
  ((known c.groupPath).map fun t => "  in group '" ++ t ++ "'").toList ++
  ((known c.helperName).map fun t => "  while resolving '" ++ t ++ "'").toList ++
  ((known c.exampleDescription).map fun t => "  for example '" ++ t ++ "'").toList ++
  (if detail = .developer then c.sourceText.toList else [])

def location (c : Context) (detail : Detail) : String :=
  "\n".intercalate (c.lines detail)

theorem lines_eq_nil_iff (c : Context) :
    c.lines .user = [] ↔
      known c.groupPath = none ∧ known c.helperName = none ∧ known c.exampleDescription = none := by
  simp [lines, Option.toList_eq_nil_iff]

end Context

/-- A message with the location lines below it, where there are any. -/
def located (message : String) (context : Option Context) (detail : Detail) : String :=
  match context with
  | none => message
  | some c =>
    let place := c.location detail
    if place = "" then message else message ++ "\n" ++ place

/-! ## Authoring errors -/

/-- A mistake in the declarations. -/
inductive AuthoringCause where
  | undefinedTarget
  | overrideWithoutAncestor (name : String)
  | undefinedHelper (name : String)
  | circularHelper (cycle : List String)
  | invalidHelperName (name reason : String)
  | sealedGroup (path : String)
deriving DecidableEq, Repr

def AuthoringCause.message : AuthoringCause → String
  | .undefinedTarget => "No subject is defined and the root group does not describe a target"
  | .overrideWithoutAncestor name => "Helper '" ++ name ++ "' has no outer definition to delegate to"
  | .undefinedHelper name => "Helper '" ++ name ++ "' is not defined"
  | .circularHelper cycle => "Circular helper dependency: " ++ " -> ".intercalate cycle
  | .invalidHelperName name reason => "Invalid helper name '" ++ name ++ "': " ++ reason
  | .sealedGroup path => "Group '" ++ path ++ "' is sealed; declarations must happen inside its block"

/-- A mistake and where it surfaced. -/
structure AuthoringError where
  cause : AuthoringCause
  context : Option Context
deriving DecidableEq, Repr

/-- The whole message for the author of the specification. -/
def AuthoringError.message (e : AuthoringError) : String :=
  located e.cause.message e.context .user

/-! ## Everything that can be raised -/

/-- An error under way. Errors that the code of the specification raised itself are values. -/
inductive Exn (V : Type) where
  | authoring (e : AuthoringError)
  | failure (message : V)
  | fault (text : String) (cause : V)
  | exit (code : Nat)
  | thrown (v : V)

/-- What an error means to the library. -/
inductive Kind where
  | authoring
  | failure
  | fault
  | ownOther
  | ordinary
  | exit
deriving DecidableEq, Repr

/-- Errors of the library's own families; no handler of the library takes them for the outcome of a judged block. -/
def Kind.isOwn : Kind → Bool
  | .authoring | .failure | .fault | .ownOther => true
  | .ordinary | .exit => false

/-- An error's name, with its text behind a colon where it has one. -/
def faultText (name text : String) : String :=
  if text = "" then name else name ++ ": " ++ text

/-! ## Complaints -/

/-- A misuse that the library answers with an ordinary error. -/
inductive Complaint where
  | privateName (name : String)
  | noAttribute (typeName wanted : String)
  | notText (index : Nat) (typeName : String)
  | missingCentre
  | notDeferred
  | notCallable (typeName : String)
  | refusedCall (callee : String) (fault : Signature.BindFault)
  | badRecord
  | endedSequence
  | tooDeep
deriving DecidableEq, Repr

def Complaint.message : Complaint → String
  | .privateName name => name
  | .noAttribute typeName wanted => "'" ++ typeName ++ "' object has no attribute '" ++ wanted ++ "'"
  | .notText index typeName => "sequence item " ++ toString index ++ ": expected str instance, " ++ typeName ++ " found"
  | .missingCentre => "be_within requires .of(expected)"
  | .notDeferred => "raise_exception requires expect_deferred"
  | .notCallable typeName => "'" ++ typeName ++ "' object is not callable"
  | .refusedCall callee fault => fault.message callee
  | .badRecord => "a text was expected"
  | .endedSequence => "generator raised StopIteration"
  | .tooDeep => "maximum recursion depth exceeded"

end Exemplar

import Exemplar.Script.Syntax

/-!
# Exemplar.Script.Class — the hierarchy of classes

Every class has a chain of bases that ends in `object`. Known classes are the plain ones, the errors, and the errors
of the library itself; the others are those that a specification defines.
-/

namespace Exemplar.Script

/-! ## Known classes -/

/-- The library's own errors, each with its base; `root` is the name of the class that they have in common. -/
def ownErrors (root : String) : List (String × String) := [
  (root, "Exception"), ("ExpectationFailure", root), ("Fault", root), ("AuthoringError", root),
  ("UndefinedDescribedTargetError", "AuthoringError"), ("OverrideWithoutAncestorError", "AuthoringError"),
  ("UndefinedHelperError", "AuthoringError"), ("CircularHelperError", "AuthoringError"),
  ("InvalidHelperNameError", "AuthoringError"), ("GroupSealedError", "AuthoringError")]

/-- The other known errors, each with its base. -/
def knownErrors : List (String × String) := [
  ("BaseException", "object"), ("BaseExceptionGroup", "BaseException"), ("ExceptionGroup", "Exception"),
  ("Exception", "BaseException"), ("ArithmeticError", "Exception"), ("FloatingPointError", "ArithmeticError"),
  ("OverflowError", "ArithmeticError"), ("ZeroDivisionError", "ArithmeticError"), ("AssertionError", "Exception"),
  ("AttributeError", "Exception"), ("BufferError", "Exception"), ("EOFError", "Exception"),
  ("ImportError", "Exception"), ("ModuleNotFoundError", "ImportError"), ("LookupError", "Exception"),
  ("IndexError", "LookupError"), ("KeyError", "LookupError"), ("MemoryError", "Exception"),
  ("NameError", "Exception"), ("UnboundLocalError", "NameError"), ("OSError", "Exception"),
  ("BlockingIOError", "OSError"), ("ChildProcessError", "OSError"), ("ConnectionError", "OSError"),
  ("BrokenPipeError", "ConnectionError"), ("ConnectionAbortedError", "ConnectionError"),
  ("ConnectionRefusedError", "ConnectionError"), ("ConnectionResetError", "ConnectionError"),
  ("FileExistsError", "OSError"), ("FileNotFoundError", "OSError"), ("InterruptedError", "OSError"),
  ("IsADirectoryError", "OSError"), ("NotADirectoryError", "OSError"), ("PermissionError", "OSError"),
  ("ProcessLookupError", "OSError"), ("TimeoutError", "OSError"), ("ReferenceError", "Exception"),
  ("RuntimeError", "Exception"), ("NotImplementedError", "RuntimeError"), ("RecursionError", "RuntimeError"),
  ("StopAsyncIteration", "Exception"), ("StopIteration", "Exception"), ("SyntaxError", "Exception"),
  ("IndentationError", "SyntaxError"), ("TabError", "IndentationError"), ("SystemError", "Exception"),
  ("TypeError", "Exception"), ("ValueError", "Exception"), ("ValidationError", "ValueError"),
  ("UnicodeError", "ValueError"), ("UnicodeDecodeError", "UnicodeError"), ("UnicodeEncodeError", "UnicodeError"),
  ("UnicodeTranslateError", "UnicodeError"), ("Warning", "Exception"), ("BytesWarning", "Warning"),
  ("DeprecationWarning", "Warning"), ("EncodingWarning", "Warning"), ("FutureWarning", "Warning"),
  ("ImportWarning", "Warning"), ("PendingDeprecationWarning", "Warning"), ("ResourceWarning", "Warning"),
  ("RuntimeWarning", "Warning"), ("SyntaxWarning", "Warning"), ("UnicodeWarning", "Warning"),
  ("UserWarning", "Warning"), ("GeneratorExit", "BaseException"), ("KeyboardInterrupt", "BaseException"),
  ("SystemExit", "BaseException"), ("error", "Exception")]

/-- The base of a known class. -/
def baseOf? (root s : String) : Option String :=
  if s = "object" then none
  else match (ownErrors root ++ knownErrors).find? (·.1 == s) with
    | some p => some p.2
    | none => some (if s = "bool" then "int" else if s = "ABCMeta" then "type" else "object")

/-- What comes between a known class and its base: a group of errors that no program has to stop for belongs to both
families of errors. -/
def besideBase (s : String) : List Cls :=
  if s = "ExceptionGroup" then [.named "BaseExceptionGroup"] else []

/-- The chain of a known class, at most `n` steps long. -/
def namedChain (root : String) : Nat → String → List Cls
  | 0, _ => []
  | n + 1, s => .named s :: (besideBase s ++ ((baseOf? root s).map (namedChain root n)).getD [])

/-- The known classes on which no class can be built. -/
def closedClasses : List String := ["bool", "NoneType", "range", "slice", "memoryview"]

/-- The class that another name stands for. -/
def unaliased (s : String) : String :=
  if s = "IOError" ∨ s = "EnvironmentError" then "OSError" else s

/-! ## Tables of classes -/

/-- The classes of a specification, the class that the library's own errors have in common, and the places that known
classes are shown to come from. -/
structure ClassTable where
  classes : Array ClassDef
  errorRoot : String
  homes : List (String × String)

namespace ClassTable

variable (t : ClassTable)

def find? : Cls → Option ClassDef
  | .own i => t.classes[i]?
  | .named _ => none

/-- The class that a name stands for; those of the specification come first, the last one of that name. -/
def named (s : String) : Cls :=
  match t.classes.toList.zipIdx.reverse.find? (·.1.name == s) with
  | some p => .own p.2
  | none => .named (unaliased s)

/-- The chain of a class, with at most `n` classes of the specification on it. -/
def chainTo : Nat → Cls → List Cls
  | 0, _ => []
  | _, .named s => namedChain t.errorRoot 20 s
  | n + 1, .own i =>
    .own i :: match ((t.classes[i]?).bind (·.base)) with
      | some b => chainTo n b
      | none => [.named "object"]

/-- The class and its bases. A class is defined after its base. -/
def chain (c : Cls) : List Cls := t.chainTo (t.classes.size + 1) c

/-- The first class stands on the chain of the second one or is it. -/
def isSubclass (c base : Cls) : Bool := (t.chain c).contains base

def isError (c : Cls) : Bool := t.isSubclass c (.named "BaseException")

/-- The definitions along the chain of a class, its own first. -/
def definitionsOf (c : Cls) : List ClassDef := (t.chain c).filterMap t.find?

def nativeBase (c : Cls) : String :=
  ((t.chain c).findSome? fun d => match d with
    | .own _ => none
    | .named s => some s).getD "object"

def nameOf : Cls → String
  | .own i => ((t.classes[i]?).map (·.name)).getD ""
  | .named s => s

def qualifiedNameOf : Cls → String
  | .own i => ((t.classes[i]?).map (·.qualifiedName)).getD ""
  | .named s => s

/-- The qualified name of a class behind the place that it comes from; the classes known everywhere come from none. -/
def pathOf : Cls → String
  | .own i => "spec." ++ t.qualifiedNameOf (.own i)
  | .named s =>
    match t.homes.find? (·.1 == s) with
    | some home => home.2 ++ "." ++ s
    | none => s

def shown (c : Cls) : String := "<class '" ++ t.pathOf c ++ "'>"

def isAbstract (c : Cls) : Bool := (t.definitionsOf c).any (·.isAbstract)

/-- The definition whose constructor a class uses. -/
def constructorOf? (c : Cls) : Option ClassDef :=
  (t.definitionsOf c).find? fun d => d.params.isSome || d.traced || d.raises.isSome

/-- The definition that says how the instances of a class are shown: one that has a text for them, or one that is built
on no class but the one that all have in common. Where there is none, the known class at the end of the
chain says it. -/
def shownBy? (c : Cls) : Option ClassDef :=
  (t.definitionsOf c).find? fun d => d.shown.isSome || d.base.isNone || d.base == some (.named "object")

/-- Instances of the class are made like plain objects, so that an abstract one has none. -/
def refusesInstances (c : Cls) : Bool := t.isAbstract c && t.nativeBase c == "object"

end ClassTable

/-! ## Constructors as callables -/

def neededParam (name : String) : Param := ⟨name, .positional, false⟩

def optionalParam (name : String) : Param := ⟨name, .positional, true⟩

/-- The parameters of the constructors of the library's own errors. -/
def errorParams? : String → Option (List Param)
  | "ExpectationFailure" => some [neededParam "message", optionalParam "result"]
  | "Fault" => some [neededParam "error"]
  | "AuthoringError" => some [neededParam "message", optionalParam "context", optionalParam "error_level"]
  | "UndefinedDescribedTargetError" => some [optionalParam "context"]
  | "OverrideWithoutAncestorError" => some [neededParam "helper_name", optionalParam "context"]
  | "UndefinedHelperError" => some [neededParam "helper_name", optionalParam "context"]
  | "CircularHelperError" => some [neededParam "cycle", optionalParam "context"]
  | "InvalidHelperNameError" => some [neededParam "helper_name", neededParam "reason"]
  | "GroupSealedError" => some [neededParam "group_path"]
  | _ => none

/-- The parameters of the known plain classes that can be inspected. -/
def plainParams? : String → Option (List Param)
  | "object" => some []
  | "list" | "tuple" => some [⟨"iterable", .positionalOnly, true⟩]
  | "float" => some [⟨"x", .positionalOnly, true⟩]
  | "complex" => some [optionalParam "real", optionalParam "imag"]
  | "enumerate" => some [neededParam "iterable", optionalParam "start"]
  | "memoryview" => some [neededParam "object"]
  | "property" => some (["fget", "fset", "fdel", "doc"].map optionalParam)
  | "reversed" => some [⟨"sequence", .positionalOnly, false⟩]
  | _ => none

/-- The parameters of a known class, if it can be inspected. -/
def namedSignature? (s : String) : Option Signature :=
  ((plainParams? s).or (errorParams? s)).map fun ps => ⟨ps⟩

/-- The parameters of a class, if it can be inspected. -/
def ClassTable.signature? (t : ClassTable) (c : Cls) : Option Signature :=
  match t.constructorOf? c with
  | some d => some ⟨d.constructorParams⟩
  | none => namedSignature? (t.nativeBase c)

/-! ## Functions that are known everywhere -/

def toolsOfOne : List String :=
  ["abs", "all", "any", "ascii", "bin", "callable", "chr", "hash", "hex", "id", "len", "oct", "ord", "repr"]

def toolsOfTwo : List String := ["divmod", "hasattr", "isinstance", "issubclass"]

/-- Functions that take other numbers of values, with their parameters if these can be inspected. -/
def otherTools : List (String × Option (List Param)) := [
  ("max", none), ("min", none), ("next", none), ("iter", none), ("getattr", none), ("vars", none), ("dir", none),
  ("sum", some [⟨"iterable", .positionalOnly, false⟩, optionalParam "start"]),
  ("sorted", some [⟨"iterable", .positionalOnly, false⟩, ⟨"key", .keywordOnly, true⟩,
    ⟨"reverse", .keywordOnly, true⟩]),
  ("format", some [⟨"value", .positionalOnly, false⟩, ⟨"format_spec", .positionalOnly, true⟩]),
  ("pow", some [neededParam "base", neededParam "exp", optionalParam "mod"]),
  ("print", some [⟨"args", .rest, false⟩]),
  ("round", some [neededParam "number", optionalParam "ndigits"])]

def isTool (name : String) : Bool :=
  toolsOfOne.contains name || toolsOfTwo.contains name || otherTools.any (·.1 == name)

/-- The parameters of a function, if it can be inspected. -/
def toolSignature? (name : String) : Option Signature :=
  let plain := fun (n : Nat) => (List.range n).map fun i => (⟨"a" ++ toString i, .positionalOnly, false⟩ : Param)
  if toolsOfOne.contains name then some ⟨plain 1⟩
  else if toolsOfTwo.contains name then some ⟨plain 2⟩
  else ((otherTools.find? (·.1 == name)).bind (·.2)).map fun ps => ⟨ps⟩

/-! ## Classes that take parameters in brackets -/

/-- The known classes that do, and so do those derived from them. -/
def genericClasses : List String :=
  ["list", "tuple", "dict", "set", "frozenset", "enumerate", "BaseExceptionGroup", "ExceptionGroup"]

def ClassTable.isGeneric (t : ClassTable) (c : Cls) : Bool :=
  c == .named "type" || genericClasses.any fun s => t.isSubclass c (.named s)

end Exemplar.Script

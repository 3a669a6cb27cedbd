import Exemplar.Decimal.Complex
import Exemplar.Decimal.Shortest
import Exemplar.Program
import Exemplar.Script.Class
import Exemplar.Script.Progression
import Exemplar.Script.Scatter

/-!
# Exemplar.Script.Object — values, objects and the state of a specification

Numbers, bytes and classes are plain values; everything with an identity of its own is an object on the heap and is
reached by its place there. The state of a specification is its heap, its variables and counters, and the builders it
has saved.
-/

namespace Exemplar.Script

/-! ## Values -/

/-- Something that the library keeps, as seen through a scope. -/
inductive Handle where
  | resolver (scope : Nat)
  | level (d : Detail)
  | context (c : Context)
deriving DecidableEq, Repr

/-- What the library keeps many of and hands out: an example, by its group and its place there, or an expectation of a
scope that has passed, by its place among those. -/
inductive Record where
  | example (group place : Nat)
  | verdict (scope index : Nat)
deriving DecidableEq, Repr

/-- The values of a specification's own. -/
inductive Atom where
  | int (n : Int)
  | float (x : Float)
  | bytes (b : List Nat)
  | cls (c : Cls)
  | handle (h : Handle)
  /-- A function that is known everywhere, by its name. -/
  | tool (name : String)
  | ref (i : Nat)

/-- All values. -/
abbrev V := Value Atom

def ofInt (n : Int) : V := .user (.int n)

def zero : V := .user (.float 0.0)

/-- The integer that a value is; truth values count as zero and one. -/
def asInt? : V → Option Int
  | .flag b => some (if b then 1 else 0)
  | .user (.int n) => some n
  | _ => none

def isNumber : V → Bool
  | .flag _ | .user (.int _) | .user (.float _) => true
  | _ => false

/-! ## Objects -/

/-- Where an expression is evaluated. A part that is missing cannot be used. -/
structure Frame where
  scope : Option V
  outer : Option V
  args : Option (List V)
  caught : Option (Exn V)

def Frame.empty : Frame := ⟨none, none, none, none⟩

/-- How the members of a stream come from what it is made of: one by one, as tuples, as what a function makes of them,
or those that pass a test. -/
inductive Stage where
  | each
  | together
  | mapped (f : V)
  | filtered (test : V)

/-- An object. -/
inductive Obj where
  | list (c : Cls) (items : Array V)
  | tuple (c : Cls) (items : List V)
  | dict (c : Cls) (items : List (V × V))
  | set (c : Cls) (frozen : Bool) (members : Members V)
  /-- An instance of a class derived from a plain one, with the plain value that it carries. -/
  | scalar (c : Cls) (plain : V)
  | complex (c : Cls) (z : Decimal.Complex)
  /-- Bytes that can be changed. -/
  | buffer (c : Cls) (bytes : Array Nat)
  | range (p : Progression)
  /-- Start, bound and step of a part of a sequence. -/
  | cut (start stop step : V)
  /-- What can be gone through once: what its next members are made of. -/
  | stream (c : Cls) (stage : Stage) (left : List (List V))
  /-- A class with parameters in brackets, or what it is unpacked to. -/
  | alias (unpacked : Bool) (c : Cls) (params : List V)
  | plain (shown : String) (name : Option V)
  | inst (c : Cls)
  /-- An error: its arguments, and what else was taken from them when it was made. -/
  | error (c : Cls) (args : List V) (parts : List (String × V))
  | fn (params : List Param) (body : Expr) (kept : Option Frame)
  | block (params : List Param) (ds : List Decl)
  | thunk (body : Expr) (frame : Frame)
  /-- What raises the error of a value that cannot be shown, which was met inside these objects. -/
  | refusal (error : Expr) (around : List Nat)
  | matcher (c : Criterion V)
  | custom (name : String) (parts : List (CustomPart × Expr)) (frame : Frame)
  | target (t : Target V)
  | method (scope : Nat) (m : Member)
  | example (description pending : V)
  | verdict (v : Verdict V)
  | other (typeName : String)

/-! ## The state -/

/-- The state of a specification. Each number that an expression has is kept once, by its type and text; of those that
are made anew each time, `zero` is the one that was kept first. A record becomes an object when it is first
asked for. While code runs because a value cannot be shown, `showing` tells the objects around that value. -/
structure Store where
  heap : Array Obj
  vars : List (String × V)
  counts : List (String × Int)
  saved : List (String × V)
  zero : Option V
  records : List (Record × V)
  showing : List Nat

namespace Store

/-- The state before anything has happened. The only object is the tuple without members. -/
def empty : Store := ⟨#[.tuple (.named "tuple") []], [], [], [], none, [], []⟩

def obj (s : Store) (i : Nat) : Obj := (s.heap[i]?).getD (.other "object")

def objOf? (s : Store) (v : V) : Option Obj :=
  match v with
  | .user (.ref i) => some (s.obj i)
  | _ => none

/-- The plain value that counts in operations: the one that an instance of a derived class carries, or the value. -/
def plain (s : Store) (v : V) : V :=
  match s.objOf? v with
  | some (.scalar _ w) => w
  | _ => v

/-- The bytes that a value holds, whether they can be changed or not. -/
def bytesOf? (s : Store) (v : V) : Option (List Nat) :=
  match s.plain v, s.objOf? v with
  | .user (.bytes b), _ => some b
  | _, some (.buffer _ b) => some b.toList
  | _, _ => none

def complexOf? (s : Store) (v : V) : Option Decimal.Complex :=
  match s.objOf? v with
  | some (.complex _ z) => some z
  | _ => none

end Store

/-- The list with the pair in front and without others of that name. -/
def replaceNamed {α : Type} (name : String) (a : α) (l : List (String × α)) : List (String × α) :=
  (name, a) :: l.filter (·.1 != name)

def partNamed? {α : Type} (name : String) (l : List (String × α)) : Option α :=
  (l.find? (·.1 == name)).map (·.2)

/-- A computation on the state. -/
abbrev StoreStep (α : Type) : Type := Step Atom Store α

/-- A program of the specification. -/
abbrev Code (α : Type) : Type 1 := Program Atom Store α

/-- The store with a new object, and the object as a value. -/
def Store.add (s : Store) (o : Obj) : V × Store := (.user (.ref s.heap.size), { s with heap := s.heap.push o })

def alloc (o : Obj) : StoreStep V := fun s =>
  let (v, s) := s.add o
  (.done v, s)

/-- A tuple; there is only one without members. -/
def allocTuple (items : List V) : StoreStep V :=
  if items.isEmpty then pure (.user (.ref 0)) else alloc (.tuple (.named "tuple") items)

/-- The object of a record, which is made when it is first asked for. -/
def recorded (r : Record) (o : Obj) : StoreStep V := do
  let s ← Action.get
  match s.records.find? (·.1 == r) with
  | some (_, v) => pure v
  | none => do
    let v ← alloc o
    Action.modify fun s => { s with records := (r, v) :: s.records }
    pure v

/-- The parts of a verdict, by their names. -/
def partsOfVerdict (v : Verdict V) : List (String × V) :=
  [("valid", .flag v.valid), ("actual", v.actual), ("fault", v.fault.getD .absent), ("negate", .flag v.negate),
    ("matcher", v.matcher.value)]

def raiseNew {α : Type} (cls : String) (args : List V) : StoreStep α := do
  let e ← alloc (.error (.named cls) args [])
  Step.raise (.thrown e)

/-- Raises a new error of a known class with a message. -/
def complain {α : Type} (cls message : String) : StoreStep α := raiseNew cls [.text message]

/-! ## Classes of values -/

def Handle.cls : Handle → Cls
  | .resolver _ => .named "ScopeResolver"
  | .level _ => .named "ErrorLevel"
  | .context _ => .named "ErrorContext"

def Obj.cls : Obj → Cls
  | .list c _ | .tuple c _ | .dict c _ | .set c _ _ | .scalar c _ | .inst c | .error c _ _ => c
  | .complex c _ | .buffer c _ | .stream c _ _ => c
  | .cut _ _ _ => .named "slice"
  | .range _ => .named "range"
  | .alias _ _ _ => .named "GenericAlias"
  | .plain _ _ => .named "Obj"
  | .fn _ _ _ | .block _ _ | .thunk _ _ | .refusal _ _ => .named "function"
  | .matcher c => .named c.sort
  | .custom _ _ _ => .named "CustomMatcher"
  | .target _ => .named "ExpectationTarget"
  | .method _ _ => .named "method"
  | .example _ _ => .named "ExampleNode"
  | .verdict _ => .named "AssertionResult"
  | .other typeName => .named typeName

variable (t : ClassTable)

def classOf (v : V) (s : Store) : Cls :=
  match v with
  | .absent => .named "NoneType"
  | .flag _ => .named "bool"
  | .text _ => .named "str"
  | .scope _ => .named "ExampleScope"
  | .builder _ => .named "GroupBuilder"
  | .subjectOf _ _ | .outer _ => .named "function"
  | .user (.int _) => .named "int"
  | .user (.float _) => .named "float"
  | .user (.bytes _) => .named "bytes"
  | .user (.cls c) => .named (if t.isAbstract c then "ABCMeta" else "type")
  | .user (.handle h) => h.cls
  | .user (.tool _) => .named "builtin_function_or_method"
  | .user (.ref i) => (s.obj i).cls

/-- The name of the type of a value, as messages have it. -/
def typeName (v : V) (s : Store) : String :=
  match s.objOf? v with
  | some (.alias _ _ _) => t.pathOf (classOf t v s)
  | _ => t.nameOf (classOf t v s)

/-- The name of the type of a value in the present state. -/
def typeNameNow (v : V) : StoreStep String := Action.gets (typeName t v)

def classOfError (e : Exn V) (s : Store) : Cls :=
  match e with
  | .authoring a =>
    .named <| match a.cause with
      | .undefinedTarget => "UndefinedDescribedTargetError"
      | .overrideWithoutAncestor _ => "OverrideWithoutAncestorError"
      | .undefinedHelper _ => "UndefinedHelperError"
      | .circularHelper _ => "CircularHelperError"
      | .invalidHelperName _ _ => "InvalidHelperNameError"
      | .sealedGroup _ => "GroupSealedError"
  | .failure _ => .named "ExpectationFailure"
  | .fault _ _ => .named "Fault"
  | .exit _ => .named "SystemExit"
  | .thrown v => classOf t v s

/-- The raised error is an instance of the known class of that name. -/
def isErrorOf (e : Exn V) (cls : String) (s : Store) : Bool :=
  t.isSubclass (classOfError t e s) (.named cls)

def kindOf (v : V) (s : Store) : Kind :=
  let c := classOf t v s
  if t.isSubclass c (.named "AuthoringError") then .authoring
  else if t.isSubclass c (.named "ExpectationFailure") then .failure
  else if t.isSubclass c (.named "Fault") then .fault
  else if t.isSubclass c (.named t.errorRoot) then .ownOther
  else if t.isSubclass c (.named "Exception") then .ordinary
  else .exit

end Exemplar.Script

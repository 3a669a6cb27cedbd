import Exemplar.Program

/-!
# Exemplar.Engine — calls into the code of a specification

An engine is a host together with a way to run programs. Everything else in the library that has to call a value of
the specification does so through `Engine.call` or `Engine.callWith`; the latter offers some arguments and passes as
many of them as the callable takes. Computations on the specification's own state are done by `Engine.step`, which also
makes the call for a value that cannot be shown.
-/

namespace Exemplar

/-- A host, and how its programs are run. -/
structure Engine (U S : Type) where
  host : Host U S
  run : {α : Type} → Program U S α → Run U S α

namespace Surface

variable {U S : Type} (sf : Surface U S)

/-- The parameters of a callable, if it can be inspected. The library's own functions take none. -/
def parametersOf? (f : Value U) (s : S) : Option Signature :=
  match f with
  | .outer _ | .subjectOf _ _ => some ⟨[]⟩
  | f => sf.signature? f s

/-- The arguments, out of those on offer, that the callable is given. -/
def argumentsFor (f : Value U) (offered : List (Value U)) (s : S) : List (Value U) :=
  offered.take (Signature.arityOf (sf.parametersOf? f s) offered.length)

/-- The name under which helpers are stored for a value. -/
def helperName (v : Value U) : Step U S (HelperName (Value U)) :=
  match v with
  | .text t => pure (.text t)
  | v => do
    let s ← Action.get
    match sf.text? v s with
    | some t => pure (.textLike t v)
    | none => do
      let key ← sf.key v
      pure (.other key v)

end Surface

def Run.complain {U S α : Type} (sf : Surface U S) (c : Complaint) : Run U S α := fun w =>
  let (v, s) := sf.complaint c w.outside
  (.raised (.thrown v), { w with outside := s })

namespace Engine

variable {U S : Type} (e : Engine U S)

def surface : Surface U S := e.host.toSurface

def call (f : Value U) (args : List (Value U)) : Run U S (Value U) :=
  match f with
  | .user u => e.run (e.host.call u args)
  | f => e.run (.ask (.call f args))

/-- Raises the error that a value which cannot be shown asks for. -/
def raiseFrom {α : Type} (f : Value U) (inSequence : Bool) : Run U S α := do
  let error ← match ← Action.attempt (e.call f []) with
    | .ok v => pure (.thrown v)
    | .error error => pure error
  let w ← Action.get
  match error with
  | .thrown v =>
    if inSequence && e.surface.endsSequence v w.outside then Run.complain e.surface .endedSequence
    else Action.raise (.thrown v)
  | error => Action.raise error

/-- Does a computation of the specification's own. -/
def step {α : Type} (x : Step U S α) : Run U S α := do
  match ← Run.tryStep x with
  | .ok a => pure a
  | .error (.raised error) => Action.raise error
  | .error (.unshowable f inSequence) => e.raiseFrom f inSequence

def complain {α : Type} (c : Complaint) : Run U S α := Run.complain e.surface c

/-- Takes a notice down if the world is verbose; its text is made up only then. -/
def notice (n : Step U S Notice) : Run U S Unit := do
  let w ← Action.get
  if w.verbose then
    let n ← e.step n
    Run.record (.notice n)
  else pure ()

/-- Calls a value with as many of the arguments as it takes. -/
def callWith (f : Value U) (offered : List (Value U)) : Run U S (Value U) := do
  let w ← Action.get
  e.call f (e.surface.argumentsFor f offered w.outside)

end Engine
end Exemplar

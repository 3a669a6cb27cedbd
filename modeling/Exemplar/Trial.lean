import Exemplar.Declare
import Exemplar.Expect
import Exemplar.Resolve

/-!
# Exemplar.Trial — running one example

Each example runs in a scope of its own, made for this one run. What its body does decides the class of the outcome;
an authoring error is no outcome and goes on its way, as does an error that is not meant to be caught at all.
-/

namespace Exemplar
namespace Engine

variable {U S : Type} (e : Engine U S)

/-- An outcome of these parts; a name or a diagnostic of which no text can be kept is refused. -/
def makeOutcome (tag : Tag) (description diagnostic : Value U) : Run U S Outcome := do
  let w ← Action.get
  match e.surface.recordText? description w.outside, e.surface.recordText? diagnostic w.outside with
  | some d, some t => pure ⟨tag, d, t⟩
  | _, _ => e.complain .badRecord

/-- Tells the journal about an example by its name. -/
def noticeOf (display : Value U) (n : String → Notice) : Run U S Unit :=
  e.notice do
    let text ← e.surface.textOf display
    pure (n text)

def finish (tag : Tag) (display diagnostic : Value U) : Run U S Outcome := do
  e.noticeOf display (.finishedExample · tag)
  e.makeOutcome tag display diagnostic

/-- The outcome of an example whose body raised an error. -/
def conclude (display : Value U) (error : Exn (Value U)) : Run U S Outcome := do
  let w ← Action.get
  match e.surface.kindOf error w.outside with
  | .authoring | .exit => Action.raise error
  | .failure => do
    let text ← e.step (e.surface.errorText error)
    e.finish .failed display (.text text)
  | .fault => do
    let text ← e.step (e.surface.errorText error)
    e.finish .errored display (.text text)
  | .ownOther | .ordinary =>
    match error with
    | .thrown v => do
      let text ← e.step (e.surface.describeFault v)
      e.finish .errored display (.text text)
    | error => Action.raise error

/-- The outcome of an example whose body has ended: the last expectation that passed is told, or else the name. -/
def succeed (scope : Nat) (display : Value U) : Run U S Outcome := do
  let s ← Run.scope scope
  match s.successes.getLast? with
  | some v => do
    let text ← e.summary v
    e.finish .passed display (.text text)
  | none => e.finish .passed display display

def openScope (x : Example (Value U)) (evaluator : Evaluator (Value U)) : Run U S Nat := fun w =>
  (.done w.scopes.size, { w with scopes := w.scopes.push (.fresh x evaluator) })

def skip (x : Example (Value U)) (display : Value U) : Run U S Outcome := do
  e.noticeOf display .skippingPending
  let w ← Action.get
  let message :=
    if e.surface.holds x.pendingMessage w.outside then x.pendingMessage else .text defaultPendingMessage
  e.makeOutcome .pending display message

def runExample (evaluator : Evaluator (Value U)) (x : Example (Value U)) : Run U S Outcome := do
  let w ← Action.get
  let display ← e.step (e.surface.displayName w.forest x)
  match x.body with
  | none => e.skip x display
  | some body =>
    let scope ← openScope x evaluator
    e.noticeOf display .runningExample
    match ← Action.attempt (e.callWith body [.scope scope]) with
    | .error error => e.conclude display error
    | .ok _ => e.succeed scope display

end Engine
end Exemplar

import Exemplar.Declare
import Exemplar.Expect
import Exemplar.Resolve

/-!
# Exemplar.Exec — answering the requests of programs

`Engine.perform` answers every request with the operation of the library that it names. A program runs with a number
of levels to go: each call from the library into the code of the specification takes one level, so running is total.
Where no level is left, an error says so, which can be caught like any other.
-/

namespace Exemplar

namespace Engine

variable {U S : Type} (e : Engine U S)

/-- Answers a call. The library's own functions take no arguments. -/
def answerCall (f : Value U) (args : List (Value U)) : Run U S (Value U) :=
  match f with
  | .user u => e.run (e.host.call u args)
  | .outer c =>
    if args.isEmpty then e.callOuter c
    else e.complain (.refusedCall "outer" (.tooMany 0 0 args.length))
  | .subjectOf _ scope =>
    if args.isEmpty then e.lookupName scope .subject
    else e.complain (.refusedCall "subject" (.tooMany 0 0 args.length))
  | v => do
    let w ← Action.get
    e.complain (.notCallable (e.surface.typeName v w.outside))

def perform {α : Type} : Request U S α → Run U S α
  | .step x => e.step x
  | .observe f => Action.gets f
  | .note vs => Run.record (.note vs)
  | .call f args => e.answerCall f args
  | .lookup scope name => e.lookup scope name
  | .access scope name => e.access scope name
  | .describedTarget scope => e.describedTarget scope
  | .evaluate source negate m => e.evaluate source negate m
  | .require t negate m => e.require t negate m
  | .message v => e.message v
  | .summary v => e.summary v
  | .declare group d => e.declare group d
  | .recorder => Run.newRecorder
  | .serial => Run.freshSerial

end Engine

namespace Host

variable {U S : Type} (h : Host U S)

/-- Runs a program with `n` levels to go. -/
def exec : Nat → {α : Type} → Program U S α → Run U S α
  | 0, _, _ => Run.complain h.toSurface .tooDeep
  | n + 1, _, p => p.interp (Engine.perform ⟨h, exec n⟩)

/-- The engine with `n` levels to go. -/
def engine (n : Nat) : Engine U S := ⟨h, h.exec n⟩

end Host
end Exemplar

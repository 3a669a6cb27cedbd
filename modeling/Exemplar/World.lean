import Exemplar.Action
import Exemplar.Forest
import Exemplar.Matcher
import Exemplar.Outcome

/-!
# Exemplar.World — the state of a run

The state of the specification itself (`outside`), of which the library knows nothing, and beside it what the
library keeps: the declared groups, one scope per example that was started, what matchers of raised errors have met,
and a journal of everything that was written or noted, in order.

* `scope?_updateScope`: a change of a scope touches that scope alone.
-/

namespace Exemplar

/-! ## Scopes -/

/-- The scope of one example (`owner`): its helpers' values in the order of completion, the names being computed,
outermost first, and the expectations that have passed. -/
structure Scope (V : Type) where
  owner : Example V
  evaluator : Evaluator V
  memo : List (HelperName V × V)
  resolving : List (HelperName V)
  successes : List (Verdict V)

namespace Scope

variable {V : Type}

/-- The scope of an example that is about to start. -/
def fresh (e : Example V) (evaluator : Evaluator V) : Scope V := ⟨e, evaluator, [], [], []⟩

def kept? (s : Scope V) (name : HelperName V) : Option V :=
  (s.memo.find? fun p => p.1.same name).map (·.2)

def isCached (s : Scope V) (name : HelperName V) : Bool := (s.kept? name).isSome

/-- The names being computed, from the given one on; `none` when it is not among them. -/
def pathFrom? (s : Scope V) (name : HelperName V) : Option (List (HelperName V)) :=
  match s.resolving.dropWhile fun n => !n.same name with
  | [] => none
  | p => some p

end Scope

/-! ## The journal -/

/-- What the library tells about its own work. -/
inductive Notice where
  | definedHelper (name : String) (level : Nat)
  | declaredGroup (path : String) (entries : Nat)
  | resolvedHelper (name : String) (definitions : Nat)
  | skippingPending (display : String)
  | runningExample (display : String)
  | finishedExample (display : String) (tag : Tag)
  | haltingRun (root display : String)
deriving DecidableEq, Repr

def Notice.message : Notice → String
  | .definedHelper name level => "Defined helper '" ++ name ++ "' at level " ++ toString level
  | .declaredGroup path entries => "Declared group '" ++ path ++ "' with " ++ toString entries ++ " entries"
  | .resolvedHelper name n => "Resolved helper '" ++ name ++ "' through " ++ toString n ++ " definition(s)"
  | .skippingPending display => "Skipping pending example '" ++ display ++ "'"
  | .runningExample display => "Running example '" ++ display ++ "'"
  | .finishedExample display tag => "Example '" ++ display ++ "' " ++ tag.word
  | .haltingRun root display => "Halting run of '" ++ root ++ "' after '" ++ display ++ "'"

/-- An entry of the journal: a notice, a piece of text written to a stream, or a note of the specification's own,
which is a row of values. -/
inductive Event (V : Type) where
  | notice (n : Notice)
  | wrote (stream : Stream) (text : String)
  | note (vs : List V)

/-! ## The world -/

/-- The state of a run. So many numbers as `serials` tells have been given out. Notices are taken down only while
`verbose` holds. -/
structure World (U S : Type) where
  outside : S
  forest : Forest (Value U)
  scopes : Array (Scope (Value U))
  recorders : Array (Value U)
  serials : Nat
  journal : Array (Event (Value U))
  verbose : Bool

/-- Why a computation on the specification's own state has no result: it raised an error; or a value has no form to
be shown in, and instead the error is to be raised that a call of the function `f` brings about. The mark says that the
value was met while a sequence was made. -/
inductive Refusal (V : Type) where
  | raised (e : Exn V)
  | unshowable (f : V) (inSequence : Bool)

/-- A computation on the specification's own state. -/
abbrev Step (U S α : Type) : Type := Action S (Refusal (Value U)) α

def Step.raise {U S α : Type} (e : Exn (Value U)) : Step U S α := Action.raise (.raised e)

/-- A computation on the whole state. -/
abbrev Run (U S α : Type) : Type := Action (World U S) (Exn (Value U)) α

namespace World

variable {U S : Type}

def initial (outside : S) (verbose : Bool) : World U S := ⟨outside, .empty, #[], #[], 0, #[], verbose⟩

def scope? (w : World U S) (id : Nat) : Option (Scope (Value U)) := w.scopes[id]?

def updateScope (w : World U S) (id : Nat) (change : Scope (Value U) → Scope (Value U)) : World U S :=
  { w with scopes := w.scopes.modify id change }

def recorded (w : World U S) (r : Nat) : Value U := (w.recorders[r]?).getD .absent

def record (w : World U S) (e : Event (Value U)) : World U S := { w with journal := w.journal.push e }

def target (w : World U S) (scope : Nat) (source : Source (Value U)) : Target (Value U) :=
  ⟨source, ((w.scope? scope).map (·.evaluator)).getD .standard, some scope⟩

/-- The specification's own state, and the world around it. -/
def split (w : World U S) : S × (S → World U S) :=
  match w with
  | ⟨outside, forest, scopes, recorders, serials, journal, verbose⟩ =>
    (outside, fun s => ⟨s, forest, scopes, recorders, serials, journal, verbose⟩)

theorem scope?_updateScope (w : World U S) (id : Nat) (change : Scope (Value U) → Scope (Value U)) (i : Nat) :
    (w.updateScope id change).scope? i = if id = i then (w.scope? i).map change else w.scope? i := by
  simp only [scope?, updateScope, Array.getElem?_modify]

end World

namespace Run

variable {U S α : Type}

/-- Does a computation of the specification's own, whose refusal becomes a result. -/
def tryStep (x : Step U S α) : Run U S (Except (Refusal (Value U)) α) :=
  Action.attemptOn World.split x

def record (e : Event (Value U)) : Run U S Unit := Action.modify (·.record e)

def changeForest (change : Forest (Value U) → Forest (Value U)) : Run U S Unit :=
  Action.modify fun w => { w with forest := change w.forest }

def changeScope (id : Nat) (change : Scope (Value U) → Scope (Value U)) : Run U S Unit :=
  Action.modify fun w => w.updateScope id change

def freshSerial : Run U S Nat := fun w => (.done w.serials, { w with serials := w.serials + 1 })

def newRecorder : Run U S Nat := fun w =>
  (.done w.recorders.size, { w with recorders := w.recorders.push .absent })

def setRecorder (r : Nat) (v : Value U) : Run U S Unit :=
  Action.modify fun w => { w with recorders := w.recorders.setIfInBounds r v }

end Run
end Exemplar

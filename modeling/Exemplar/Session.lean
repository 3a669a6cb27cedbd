import Exemplar.Exec
import Exemplar.Trial

/-!
# Exemplar.Session — running all examples of a tree

The examples run in the order of their declaration until one fails or errors; each outcome is reported as one line.
A tree may still grow while it is walked, so the next example is looked up only when the one before is done.
-/

namespace Exemplar

/-! ## Results -/

/-- How many outcomes of each class there were, and the one that stopped the run. -/
structure Tally where
  executed : Nat
  counts : List (Tag × Nat)
  halting : Option Outcome
deriving DecidableEq, Repr

namespace Tally

def empty : Tally := ⟨0, [], none⟩

def increment (t : Tag) : List (Tag × Nat) → List (Tag × Nat)
  | [] => [(t, 1)]
  | (u, n) :: r => if u = t then (u, n + 1) :: r else (u, n) :: increment t r

def add (y : Tally) (o : Outcome) : Tally :=
  ⟨y.executed + 1, increment o.tag y.counts, if o.halts then some o else y.halting⟩

def count (y : Tally) (t : Tag) : Nat := ((y.counts.find? fun p => p.1 == t).map (·.2)).getD 0

def halted (y : Tally) : Bool := y.halting.isSome

end Tally

/-! ## Running -/

def Run.report {U S : Type} (r : Reporting) (o : Outcome) : Run U S String := do
  let line := o.line r.labels
  Run.record (.wrote (r.streamFor o.tag) (line ++ "\n"))
  pure line

namespace Engine

variable {U S : Type} (e : Engine U S)

/-- Runs the examples from a place on, up to `n` of them, each by `runOne`. -/
def runFrom (r : Reporting) (runOne : Example (Value U) → Run U S Outcome) (root : Nat) :
    Nat → Forest.Cursor → Tally → Run U S Tally
  | 0, _, _ => Action.exhausted
  | n + 1, c, y => do
    let w ← Action.get
    match w.forest.next? c with
    | none => pure y
    | some (x, c) =>
      let o ← runOne x
      let _ ← Run.report r o
      let y := y.add o
      if o.halts then
        let w ← Action.get
        let text ← e.step (e.surface.groupText w.forest root)
        e.notice (pure (.haltingRun text o.description))
        pure y
      else runFrom r runOne root n c y

/-- Runs the examples below a root, at most `limit` of them, each by `runOne`. -/
def drive (r : Reporting) (runOne : Example (Value U) → Run U S Outcome) (limit root : Nat) : Run U S Tally :=
  e.runFrom r runOne root limit [(root, 0)] .empty

def failureExitCode : Nat := 1

/-- Runs the examples below a root, each by `runOne`, and exits if the run was stopped. -/
def driveOrExit (r : Reporting) (runOne : Example (Value U) → Run U S Outcome) (limit root : Nat) : Run U S Tally := do
  let y ← e.drive r runOne limit root
  if y.halted then Action.raise (.exit failureExitCode) else pure y

/-- Runs the examples below a root, each in a scope of its own. -/
def runTree (r : Reporting) (evaluator : Evaluator (Value U)) (limit root : Nat) : Run U S Tally :=
  e.drive r (e.runExample evaluator) limit root

/-- Runs the examples below a root, each in a scope of its own, and exits if the run was stopped. -/
def runOrExit (r : Reporting) (evaluator : Evaluator (Value U)) (limit root : Nat) : Run U S Tally :=
  e.driveOrExit r (e.runExample evaluator) limit root

/-! ## Entry points -/

/-- Declares a group with its target, if the description is one, and runs it. Without a block nothing happens yet. -/
def describe (r : Reporting) (evaluator : Evaluator (Value U)) (limit : Nat) (description block : Value U) :
    Run U S (Option Tally) := do
  if block.isAbsent then pure none
  else
    let root ← e.buildGroup description block
    let y ← e.runOrExit r evaluator limit root
    pure (some y)

/-- Declares a group for a scenario and runs it; the description is taken as text and is never a target. -/
def context (r : Reporting) (evaluator : Evaluator (Value U)) (limit : Nat) (description block : Value U) :
    Run U S (Option Tally) := do
  if block.isAbsent then pure none
  else
    let text ← e.step (e.surface.textOf description)
    e.describe r evaluator limit (.text text) block

/-- Declares a nameless root around the given declaration, and runs it. -/
def runAlone (r : Reporting) (evaluator : Evaluator (Value U)) (limit : Nat) (d : Declaration (Value U)) :
    Run U S Tally := do
  let root ← e.addRoot .absent
  Action.ensure (e.declare root d) fun w => { w with forest := w.forest.closeGroup root }
  let w ← Action.get
  let path ← e.step (e.surface.fullText w.forest root)
  e.notice (pure (.declaredGroup path (w.forest.entries root).length))
  e.runOrExit r evaluator limit root

/-- Runs one example outside of any group. -/
def it (r : Reporting) (evaluator : Evaluator (Value U)) (limit : Nat) (description body : Value U) :
    Run U S Tally :=
  e.runAlone r evaluator limit (.example description body)

/-- Reports one pending example outside of any group. -/
def pending (r : Reporting) (evaluator : Evaluator (Value U)) (limit : Nat) (message : Value U) : Run U S Tally :=
  e.runAlone r evaluator limit (.pending message)

end Engine
end Exemplar

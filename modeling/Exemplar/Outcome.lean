import Exemplar.Text.Blank

/-!
# Exemplar.Outcome — what became of an example, and the line that reports it

* `Tag.halts_iff`: a run stops exactly at a failed or an errored example.
-/

namespace Exemplar

/-! ## Outcomes -/

/-- The classes of outcomes. -/
inductive Tag where
  | passed
  | failed
  | errored
  | pending
deriving DecidableEq, Repr

namespace Tag

def all : List Tag := [.passed, .failed, .errored, .pending]

def word : Tag → String
  | .passed => "passed"
  | .failed => "failed"
  | .errored => "errored"
  | .pending => "pending"

def halts : Tag → Bool
  | .failed | .errored => true
  | .passed | .pending => false

/-- The label of a line when no other is configured. -/
def defaultLabel : Tag → String
  | .passed => "Success"
  | .pending => "Warning"
  | .failed => "Failure"
  | .errored => "Error"

def capitalized : Tag → String
  | .passed => "Passed"
  | .failed => "Failed"
  | .errored => "Errored"
  | .pending => "Pending"

theorem halts_iff (t : Tag) : t.halts = true ↔ t = .failed ∨ t = .errored := by
  cases t <;> simp [halts]

end Tag

/-- The outcome of one example: its class, its name and what is to be told. -/
structure Outcome where
  tag : Tag
  description : String
  diagnostic : String
deriving DecidableEq, Repr

def Outcome.halts (o : Outcome) : Bool := o.tag.halts

/-! ## Lines -/

/-- Labels by tag. -/
abbrev Labels := List (Tag × String)

/-- The label of a tag. An empty table stands for the default labels; a tag that a table leaves out is written out. -/
def labelFor (labels : Labels) (t : Tag) : String :=
  if labels.isEmpty then t.defaultLabel
  else ((labels.find? fun p => p.1 == t).map (·.2)).getD t.capitalized

/-- The line that reports an outcome, without its end. -/
def Outcome.line (labels : Labels) (o : Outcome) : String :=
  labelFor labels o.tag ++ ": " ++ Text.asSentence o.diagnostic

/-! ## Streams -/

/-- Where a line can go: the two streams of a configured reporter, or those of the console. -/
inductive Stream where
  | out
  | err
  | consoleOut
  | consoleErr
deriving DecidableEq, Repr

/-- How outcomes are reported. -/
structure Reporting where
  labels : Labels
  console : Bool
deriving DecidableEq, Repr

/-- Passed examples go to the first stream, all others to the second. -/
def Reporting.streamFor (r : Reporting) (t : Tag) : Stream :=
  match t, r.console with
  | .passed, false => .out
  | .passed, true => .consoleOut
  | _, false => .err
  | _, true => .consoleErr

end Exemplar

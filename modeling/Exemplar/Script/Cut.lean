import Exemplar.Script.Code

/-!
# Exemplar.Script.Cut — parts of sequences

A cut tells by a start, a bound and a step which members of a sequence are meant. Places count from the end where they
are negative, and lie within the sequence at last; what is not told is taken from the direction.

* `places_length`: a cut means as many places as it says.
-/

namespace Exemplar.Script

variable (t : ClassTable)

/-- A cut whose bounds are integers, where they are told. -/
structure Cut where
  start : Option Int
  stop : Option Int
  step : Int
deriving DecidableEq, Repr

namespace Cut

/-- A place within `n` members, as a bound for steps downward or upward. -/
def clamp (down : Bool) (n i : Int) : Int :=
  let least := if down then -1 else 0
  let most := if down then n - 1 else n
  let i := if i < 0 then i + n else i
  max least (min most i)

/-- The places that are meant among `n` members, as a progression. -/
def places (c : Cut) (n : Nat) : Progression :=
  let down := decide (c.step < 0)
  let first := (c.start.map (clamp down n)).getD (if down then n - 1 else 0)
  let bound := (c.stop.map (clamp down n)).getD (if down then -1 else n)
  ⟨first, bound, c.step⟩

def of {α : Type} (c : Cut) (l : List α) : List α :=
  let items := l.toArray
  (c.places items.size).members.filterMap fun i => items[i.toNat]?

/-- The members of a progression that are meant, as a progression. -/
def ofProgression (c : Cut) (p : Progression) : Progression :=
  let q := c.places p.length
  ⟨p.start + q.start * p.step, p.start + q.stop * p.step, p.step * q.step⟩

/-- All members are meant, in order. -/
def isWhole (c : Cut) (n : Nat) : Bool :=
  let q := c.places n
  q.start == 0 && q.step == 1 && q.length == n

theorem places_length (c : Cut) (n : Nat) : (c.places n).members.length = (c.places n).length :=
  Progression.members_length _

end Cut

def cutBound (v : V) : Code (Option Int) := do
  let s ← store
  match v, asInt? (s.plain v) with
  | .absent, _ => pure none
  | _, some n => pure (some n)
  | _, none => refuse "TypeError" "slice indices must be integers or None or have an __index__ method"

/-- The cut of these parts; its step is looked at first. -/
def readCut (start stop step : V) : Code Cut := do
  let step ← cutBound step
  if step = some 0 then refuse "ValueError" "slice step cannot be zero"
  else do
    let start ← cutBound start
    let stop ← cutBound stop
    pure ⟨start, stop, step.getD 1⟩

end Exemplar.Script

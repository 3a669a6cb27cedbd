/-!
# Exemplar.Script.Progression — arithmetic progressions

The integers from a start on, in steps of one size, as long as they have not reached a bound. A progression with steps
downward ends below its start. Two progressions are the same if they have the same members, whatever their bounds.

* `members_length`: a progression has as many members as it says.
* `same_refl`: a progression has the same members as itself.
-/

namespace Exemplar.Script

/-- Start, bound and step; the step is not zero. -/
structure Progression where
  start : Int
  stop : Int
  step : Int
deriving DecidableEq, Repr

namespace Progression

def length (p : Progression) : Nat :=
  let distance := if 0 < p.step then p.stop - p.start else p.start - p.stop
  if distance ≤ 0 then 0 else ((distance - 1) / p.step.natAbs + 1).toNat

def at? (p : Progression) (i : Int) : Option Int :=
  if 0 ≤ i ∧ i < p.length then some (p.start + i * p.step) else none

def members (p : Progression) : List Int :=
  (List.range p.length).map fun (i : Nat) => p.start + i * p.step

def holds (p : Progression) (n : Int) : Bool :=
  (n - p.start) % p.step == 0 && (p.at? ((n - p.start) / p.step)).isSome

/-- What tells the members: their number, the first one if there is one, and the step if there are more. -/
def signature (p : Progression) : Nat × Int × Int :=
  match p.length with
  | 0 => (0, 0, 0)
  | 1 => (1, p.start, 0)
  | n => (n, p.start, p.step)

def same (p q : Progression) : Bool := p.signature == q.signature

theorem members_length (p : Progression) : p.members.length = p.length := by
  simp [members]

theorem same_refl (p : Progression) : p.same p = true := by
  simp [same]

end Progression
end Exemplar.Script

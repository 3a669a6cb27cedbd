import Exemplar.Pattern.Matching
import Exemplar.Value

/-!
# Exemplar.Matcher — matchers, what they judge, and verdicts

A matcher goes by a criterion: one of the built-in ones, or whatever the value answers that the matcher is known by. It
is applied to a source: a value at hand, or a block that is still to be called. The verdict keeps what was observed, so
that it can be put into words later.
-/

namespace Exemplar

/-! ## Matchers -/

/-- What a matcher looks for. `raises` notes the error it has met last under the number of a recorder; `own` leaves all
questions to the value that the matcher is known by. -/
inductive Criterion (V : Type) where
  | equalTo (expected : V)
  | same (expected : V)
  | instanceOf (expected : V)
  | within (delta centre : V)
  | includes (items : List V)
  | found (pattern : Pattern)
  | satisfies (predicate label : V)
  | raises (recorder : Nat) (expected message : V)
  | own

namespace Criterion

variable {V : Type}

/-- The name of the sort of matcher, as it is shown. -/
def sort : Criterion V → String
  | .equalTo _ => "Eq"
  | .same _ => "Be"
  | .instanceOf _ => "BeInstanceOf"
  | .within _ _ => "BeWithin"
  | .includes _ => "Include"
  | .found _ => "Match"
  | .satisfies _ _ => "Satisfy"
  | .raises _ _ _ => "RaiseException"
  | .own => ""

/-- The matcher wants a deferred block itself and not the block's value; a custom one is asked. -/
def wantsBlock : Criterion V → Bool
  | .raises _ _ _ => true
  | _ => false

/-- The same criterion around another centre, for one of closeness. -/
def centredAt (c : Criterion V) (centre : V) : Criterion V :=
  match c with
  | .within delta _ => .within delta centre
  | c => c

end Criterion

/-- A matcher: the value by which a specification knows it, and its criterion. -/
structure Matcher (V : Type) where
  value : V
  criterion : Criterion V

/-! ## Sources and targets -/

/-- What an expectation is about. -/
inductive Source (V : Type) where
  | value (v : V)
  | block (f : V)

def Source.isDeferred {V : Type} : Source V → Bool
  | .value _ => false
  | .block _ => true

/-- Who judges an expectation. -/
inductive Evaluator (V : Type) where
  | standard
  | custom (v : V)

/-- An expectation that waits for its matcher; a success is recorded on the scope, if there is one. -/
structure Target (V : Type) where
  source : Source V
  evaluator : Evaluator V
  scope : Option Nat

/-! ## Verdicts -/

/-- The verdict on one expectation. A fault is the error that kept it from being judged. -/
structure Verdict (V : Type) where
  valid : Bool
  actual : V
  fault : Option V
  negate : Bool
  matcher : Matcher V

end Exemplar

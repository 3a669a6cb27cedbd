import Exemplar.Error

/-!
# Exemplar.Value — the values that pass between the library and a specification

A specification brings values of its own (`user`); the library hands out scopes, builders and two sorts of functions,
and it tells texts, truth values and the absent value apart from the rest. A definition of a helper is kept with the
level and the path of the group that declared it.
-/

namespace Exemplar

/-! ## Definitions of helpers -/

/-- What produces a helper's value: a callable of the specification, or the described target itself. -/
inductive Producer (V : Type) where
  | callable (f : V)
  | target (described : V)

/-- One level of a helper's chain of definitions. -/
structure Definition (V : Type) where
  name : HelperName V
  level : Int
  producer : Producer V
  groupPath : String

/-- A definition under way, with a number of its own: the one being run, and those further outward, the next one
first. -/
structure OuterCall (V : Type) where
  serial : Nat
  scope : Nat
  current : Definition V
  outward : List (Definition V)

/-! ## Values -/

/-- A value. The function that computes a scope's subject and the function outward are made anew for each use, and a
number tells them apart. -/
inductive Value (U : Type) where
  | absent
  | flag (b : Bool)
  | text (s : String)
  | user (u : U)
  | scope (id : Nat)
  | builder (id : Nat)
  | subjectOf (serial scope : Nat)
  | outer (call : OuterCall (Value U))

namespace Value

variable {U : Type}

instance : Inhabited (Value U) := ⟨.absent⟩

def isAbsent : Value U → Bool
  | .absent => true
  | _ => false

end Value

def HelperName.toValue {U : Type} : HelperName (Value U) → Value U
  | .text s => .text s
  | .textLike _ v | .other _ v => v

end Exemplar

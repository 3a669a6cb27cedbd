import Exemplar.Surface

/-!
# Exemplar.Program — the code of a specification

The bodies, producers, blocks and matchers that a specification brings are programs: they compute on the
specification's own state, raise and catch errors, and otherwise can only ask the library for what `Request` lists.
`Program.interp` runs a program once it is known how each request is answered.
-/

namespace Exemplar

/-! ## Requests -/

/-- A declaration made on a builder. An absent block or producer declares nothing yet. -/
inductive Declaration (V : Type) where
  | group (description block : V)
  | helper (name producer : V)
  | example (description body : V)
  | pending (message : V)
  | define (name producer : V)
  | close

/-- What stands behind a name on a scope: one of its members, or a value. -/
inductive Access (V : Type) where
  | member (m : Member)
  | value (v : V)

/-- What a program may ask for, with the type of the answer. -/
inductive Request (U S : Type) : Type → Type 1 where
  /-- A computation on the specification's own state. -/
  | step {α : Type} (x : Step U S α) : Request U S α
  /-- A look at the state of the run. -/
  | observe {α : Type} (f : World U S → α) : Request U S α
  /-- An entry of the specification's own in the journal. -/
  | note (vs : List (Value U)) : Request U S Unit
  /-- A call. -/
  | call (f : Value U) (args : List (Value U)) : Request U S (Value U)
  /-- The value of a helper. -/
  | lookup (scope : Nat) (name : Value U) : Request U S (Value U)
  /-- What stands behind a name on a scope. -/
  | access (scope : Nat) (name : String) : Request U S (Access (Value U))
  /-- The value that the root of a scope's example describes. -/
  | describedTarget (scope : Nat) : Request U S (Value U)
  /-- A verdict that nothing follows from. -/
  | evaluate (source : Source (Value U)) (negate : Bool) (m : Matcher (Value U)) : Request U S (Verdict (Value U))
  /-- An expectation that raises unless it is met. -/
  | require (t : Target (Value U)) (negate : Bool) (m : Matcher (Value U)) : Request U S (Verdict (Value U))
  /-- The diagnostic text of a verdict. -/
  | message (v : Verdict (Value U)) : Request U S (Value U)
  /-- What a verdict's expectation was about. -/
  | summary (v : Verdict (Value U)) : Request U S String
  /-- A declaration on the builder of a group. -/
  | declare (group : Nat) (d : Declaration (Value U)) : Request U S Unit
  /-- A recorder for a matcher of raised errors. -/
  | recorder : Request U S Nat
  /-- A number that has not been given out before. -/
  | serial : Request U S Nat

/-! ## Programs -/

/-- A program that ends with a result in `α` or raises. -/
inductive Program (U S : Type) : Type → Type 1 where
  | pure {α : Type} (a : α) : Program U S α
  | bind {α β : Type} (p : Program U S β) (k : β → Program U S α) : Program U S α
  | raise {α : Type} (e : Exn (Value U)) : Program U S α
  | attempt {α : Type} (p : Program U S α) : Program U S (Except (Exn (Value U)) α)
  | ask {α : Type} (r : Request U S α) : Program U S α

namespace Program

variable {U S α β : Type}

instance : Monad (Program U S) where
  pure := Program.pure
  bind p k := Program.bind p k

/-- A computation on the specification's own state. -/
def step (x : Step U S α) : Program U S α := .ask (.step x)

/-- Runs a program over some state, its requests being answered by `perform`. -/
def interp {σ : Type} (perform : {γ : Type} → Request U S γ → Action σ (Exn (Value U)) γ) {α : Type} :
    Program U S α → Action σ (Exn (Value U)) α
  | .pure a => Pure.pure a
  | .bind p k => interp perform p >>= fun b => interp perform (k b)
  | .raise e => Action.raise e
  | .attempt p => Action.attempt (interp perform p)
  | .ask r => perform r

section
variable {σ : Type} (perform : {γ : Type} → Request U S γ → Action σ (Exn (Value U)) γ)

theorem interp_ask (r : Request U S α) : interp perform (Program.ask r) = perform r := rfl

end

end Program

/-! ## Hosts -/

/-- The questions that a custom matcher may leave unanswered. -/
inductive Trait where
  | description
  | expectsCallable
  | actual
  | failureMessage
  | failureMessageWhenNegated
deriving DecidableEq, Repr

/-- The side of the specification: the questions about its values, and the programs behind them. -/
structure Host (U S : Type) extends Surface U S where
  /-- A call of a value of the specification's own. -/
  call : U → List (Value U) → Program U S (Value U)
  /-- The second value contains the first. -/
  contains : Value U → Value U → Program U S Bool
  /-- What a custom matcher answers to an actual value. -/
  matchesActual : Value U → Value U → Program U S (Value U)
  /-- What a custom matcher answers to a question, if it knows it. -/
  traitOf : Value U → Trait → Program U S (Option (Value U))
  /-- The verdict of a custom evaluator. -/
  judge : Value U → Source (Value U) → Bool → Matcher (Value U) → Program U S (Verdict (Value U))

end Exemplar

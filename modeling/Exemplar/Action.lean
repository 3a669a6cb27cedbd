/-!
# Exemplar.Action — computations over a state that may raise or run out of steps

An action reads and changes a state and then ends in one of three ways: it is done with a result, it raises, or it
has used up the steps it was granted. Whatever the ending, the changes made so far stay.

* `LawfulMonad (Action σ ε)`: actions compose as a monad.
* `attempt_apply`, `ensure_apply`: what catching an error and cleaning up after an action mean.
-/

namespace Exemplar

/-- How an action ends. -/
inductive Ending (ε α : Type) where
  | done (a : α)
  | raised (e : ε)
  | exhausted
deriving Repr

/-- A computation over the state `σ` with errors in `ε`. -/
def Action (σ ε α : Type) : Type := σ → Ending ε α × σ

namespace Action

variable {σ τ ε α β : Type}

/-! ## Composition -/

/-- Does nothing and returns `a`. -/
protected def pure (a : α) : Action σ ε α := fun s => (.done a, s)

/-- Goes on with the result, unless there is none. -/
protected def bind (x : Action σ ε α) (f : α → Action σ ε β) : Action σ ε β := fun s =>
  match x s with
  | (.done a, s') => f a s'
  | (.raised e, s') => (.raised e, s')
  | (.exhausted, s') => (.exhausted, s')

instance : Monad (Action σ ε) where
  pure := Action.pure
  bind := Action.bind

theorem pure_apply (a : α) (s : σ) : (pure a : Action σ ε α) s = (.done a, s) := rfl

theorem bind_apply (x : Action σ ε α) (f : α → Action σ ε β) (s : σ) :
    (x >>= f) s = match x s with
      | (.done a, s') => f a s'
      | (.raised e, s') => (.raised e, s')
      | (.exhausted, s') => (.exhausted, s') := rfl

theorem bind_done {x : Action σ ε α} {f : α → Action σ ε β} {s s' : σ} {a : α} (h : x s = (.done a, s')) :
    (x >>= f) s = f a s' := by
  rw [bind_apply, h]

theorem bind_raised {x : Action σ ε α} {f : α → Action σ ε β} {s s' : σ} {e : ε} (h : x s = (.raised e, s')) :
    (x >>= f) s = (.raised e, s') := by
  rw [bind_apply, h]

theorem bind_exhausted {x : Action σ ε α} {f : α → Action σ ε β} {s s' : σ} (h : x s = (.exhausted, s')) :
    (x >>= f) s = (.exhausted, s') := by
  rw [bind_apply, h]

instance : LawfulMonad (Action σ ε) := LawfulMonad.mk' (Action σ ε)
  (fun x => by
    funext s
    show (x >>= fun a => pure a) s = x s
    rw [bind_apply]
    rcases x s with ⟨_ | _ | _, _⟩ <;> rfl)
  (fun _ _ => rfl)
  (fun x f g => by
    funext s
    rw [bind_apply, bind_apply, bind_apply]
    rcases x s with ⟨_ | _ | _, _⟩ <;> rfl)

/-! ## Raising and catching -/

/-- Raises `e`. -/
def raise (e : ε) : Action σ ε α := fun s => (.raised e, s)

def exhausted : Action σ ε α := fun s => (.exhausted, s)

def attempt (x : Action σ ε α) : Action σ ε (Except ε α) := fun s =>
  match x s with
  | (.done a, s') => (.done (.ok a), s')
  | (.raised e, s') => (.done (.error e), s')
  | (.exhausted, s') => (.exhausted, s')

/-- Applies `after` to the state once `x` has ended, in whatever way. -/
def ensure (x : Action σ ε α) (after : σ → σ) : Action σ ε α := fun s =>
  match x s with
  | (r, s') => (r, after s')

theorem raise_apply (e : ε) (s : σ) : (raise e : Action σ ε α) s = (.raised e, s) := rfl

theorem attempt_apply (x : Action σ ε α) (s : σ) :
    attempt x s = match x s with
      | (.done a, s') => (.done (.ok a), s')
      | (.raised e, s') => (.done (.error e), s')
      | (.exhausted, s') => (.exhausted, s') := rfl

theorem ensure_apply (x : Action σ ε α) (after : σ → σ) (s : σ) :
    ensure x after s = ((x s).1, after (x s).2) := rfl

/-! ## The state -/

def get : Action σ ε σ := fun s => (.done s, s)

def gets (f : σ → α) : Action σ ε α := fun s => (.done (f s), s)

def modify (f : σ → σ) : Action σ ε Unit := fun s => (.done (), f s)

theorem get_apply (s : σ) : (get : Action σ ε σ) s = (.done s, s) := rfl

theorem gets_apply (f : σ → α) (s : σ) : (gets f : Action σ ε α) s = (.done (f s), s) := rfl

theorem modify_apply (f : σ → σ) (s : σ) : (modify f : Action σ ε Unit) s = (.done (), f s) := rfl

/-- Does an action on a part of a larger state, which `split` takes out of what is around it; an error becomes the
result. -/
def attemptOn {δ : Type} (split : τ → σ × (σ → τ)) (x : Action σ ε α) : Action τ δ (Except ε α) := fun t =>
  let (s, back) := split t
  match x s with
  | (.done a, s) => (.done (.ok a), back s)
  | (.raised e, s) => (.done (.error e), back s)
  | (.exhausted, s) => (.exhausted, back s)

end Action
end Exemplar

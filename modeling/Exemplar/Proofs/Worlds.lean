import Exemplar.Session

/-!
# Exemplar.Proofs.Worlds — what the small operations of an engine leave behind

The changes that the library makes to a world have names here, each with what it does to every scope. Beside them
stand the laws of the operations that all others are made of: a computation on the specification's own state changes
nothing of what the library keeps, unless it calls back.

* `step_apply`, `step_done`: the endings of such a computation.
-/

namespace Exemplar

variable {U S α : Type}

/-! ## Changes of a world -/

namespace World

/-- The world with another state of the specification's own. -/
def withOutside (w : World U S) (s : S) : World U S := { w with outside := s }

/-- The world with another forest. -/
def withForest (w : World U S) (f : Forest (Value U)) : World U S := { w with forest := f }

/-- The world in which one more number has been given out. -/
def counted (w : World U S) : World U S := { w with serials := w.serials + 1 }

/-- The world with a name among those that a scope computes. -/
def enter (w : World U S) (id : Nat) (name : HelperName (Value U)) : World U S :=
  w.updateScope id fun s => { s with resolving := s.resolving ++ [name] }

/-- The world without the name that a scope has come to compute last. -/
def leave (w : World U S) (id : Nat) : World U S :=
  w.updateScope id fun s => { s with resolving := s.resolving.dropLast }

/-- The world with a helper's value kept in a scope. -/
def keep (w : World U S) (id : Nat) (name : HelperName (Value U)) (v : Value U) : World U S :=
  w.updateScope id fun s => { s with memo := s.memo ++ [(name, v)] }

/-- The world with one more success on a scope. -/
def succeed (w : World U S) (id : Nat) (v : Verdict (Value U)) : World U S :=
  w.updateScope id fun s => { s with successes := s.successes ++ [v] }

/-- The world with a new scope for an example. -/
def opened (w : World U S) (x : Example (Value U)) (evaluator : Evaluator (Value U)) : World U S :=
  { w with scopes := w.scopes.push (.fresh x evaluator) }

/-- The world in which a notice has been taken down, if any are. -/
def noticed (w : World U S) (n : Notice) : World U S := if w.verbose then w.record (.notice n) else w

section
variable (w : World U S) (s : S) (id i : Nat) (name : HelperName (Value U)) (v : Value U)

@[simp] theorem scope?_withOutside : (w.withOutside s).scope? i = w.scope? i := rfl
@[simp] theorem withOutside_self : w.withOutside w.outside = w := rfl
@[simp] theorem scope?_counted : w.counted.scope? i = w.scope? i := rfl

@[simp] theorem scope?_noticed (n : Notice) : (w.noticed n).scope? i = w.scope? i := by
  unfold noticed
  split <;> rfl

@[simp] theorem forest_noticed (n : Notice) : (w.noticed n).forest = w.forest := by
  unfold noticed
  split <;> rfl

@[simp] theorem outside_noticed (n : Notice) : (w.noticed n).outside = w.outside := by
  unfold noticed
  split <;> rfl

theorem scope?_enter : (w.enter id name).scope? i =
    if id = i then (w.scope? i).map fun s => { s with resolving := s.resolving ++ [name] } else w.scope? i :=
  scope?_updateScope w id _ i

theorem scope?_leave : (w.leave id).scope? i =
    if id = i then (w.scope? i).map fun s => { s with resolving := s.resolving.dropLast } else w.scope? i :=
  scope?_updateScope w id _ i

theorem scope?_keep : (w.keep id name v).scope? i =
    if id = i then (w.scope? i).map fun s => { s with memo := s.memo ++ [(name, v)] } else w.scope? i :=
  scope?_updateScope w id _ i

end

theorem split_eq (w : World U S) : w.split = (w.outside, w.withOutside) := rfl

theorem scope?_opened (w : World U S) (x : Example (Value U)) (evaluator : Evaluator (Value U)) (i : Nat) :
    (w.opened x evaluator).scope? i = if i = w.scopes.size then some (.fresh x evaluator) else w.scope? i := by
  simp only [scope?, opened, Array.getElem?_push]

end World

/-! ## Actions -/

namespace Action

variable {σ ε β : Type}

theorem get_bind_apply (k : σ → Action σ ε β) (s : σ) : (Action.get >>= k) s = k s s := rfl

/-- What a sequence has done that has come to an end. -/
theorem bind_done_iff {x : Action σ ε α} {f : α → Action σ ε β} {s s' : σ} {b : β} :
    (x >>= f) s = (.done b, s') ↔ ∃ a t, x s = (.done a, t) ∧ f a t = (.done b, s') := by
  rw [bind_apply]
  rcases hx : x s with ⟨a | e | _, t⟩
  · exact ⟨fun h => ⟨a, t, rfl, h⟩, fun ⟨_, _, h, hf⟩ => by cases h; exact hf⟩
  · exact ⟨fun h => by simp at h, fun ⟨_, _, h, _⟩ => by simp at h⟩
  · exact ⟨fun h => by simp at h, fun ⟨_, _, h, _⟩ => by simp at h⟩

theorem attempt_of_done {x : Action σ ε α} {s s' : σ} {a : α} (h : x s = (.done a, s')) :
    attempt x s = (.done (.ok a), s') := by
  rw [attempt_apply, h]

theorem attempt_of_raised {x : Action σ ε α} {s s' : σ} {e : ε} (h : x s = (.raised e, s')) :
    attempt x s = (.done (.error e), s') := by
  rw [attempt_apply, h]

end Action

/-! ## Computations on the specification's own state -/

namespace Run

theorem tryStep_apply (x : Step U S α) (w : World U S) :
    (tryStep x : Run U S _) w = match x w.outside with
      | (.done a, s) => (.done (.ok a), w.withOutside s)
      | (.raised e, s) => (.done (.error e), w.withOutside s)
      | (.exhausted, s) => (.exhausted, w.withOutside s) := by
  unfold tryStep Action.attemptOn
  dsimp only [World.split_eq]
  rcases x w.outside with ⟨_ | _ | _, _⟩ <;> rfl

theorem scope_apply (id : Nat) (w : World U S) :
    (Run.scope id : Run U S _) w = match w.scope? id with
      | some s => (.done s, w)
      | none => (.exhausted, w) := by
  show (match w.scope? id with
    | some s => (pure s : Run U S _)
    | none => Action.exhausted) w = _
  cases w.scope? id <;> rfl

/-- A scope that was found is the one with that number, and looking changes nothing. -/
theorem scope_done {id : Nat} {w w' : World U S} {s : Scope (Value U)}
    (h : (Run.scope id : Run U S _) w = (.done s, w')) : w.scope? id = some s ∧ w' = w := by
  rw [scope_apply] at h
  split at h
  · next s' hs =>
    simp only [Prod.mk.injEq, Ending.done.injEq] at h
    obtain ⟨rfl, rfl⟩ := h
    exact ⟨hs, rfl⟩
  · simp at h

end Run

namespace Engine

variable (e : Engine U S)

theorem step_apply (x : Step U S α) (w : World U S) :
    e.step x w = match x w.outside with
      | (.done a, s) => (.done a, w.withOutside s)
      | (.raised (.raised err), s) => (.raised err, w.withOutside s)
      | (.raised (.unshowable f q), s) => e.raiseFrom f q (w.withOutside s)
      | (.exhausted, s) => (.exhausted, w.withOutside s) := by
  rw [Engine.step, Action.bind_apply, Run.tryStep_apply]
  rcases x w.outside with ⟨a | (err | ⟨f, q⟩) | _, s⟩ <;> rfl

theorem step_of_done {x : Step U S α} {w : World U S} {a : α} {s : S} (h : x w.outside = (.done a, s)) :
    e.step x w = (.done a, w.withOutside s) := by
  rw [step_apply, h]

theorem step_of_raised {x : Step U S α} {w : World U S} {err : Exn (Value U)} {s : S}
    (h : x w.outside = (.raised (.raised err), s)) : e.step x w = (.raised err, w.withOutside s) := by
  rw [step_apply, h]

/-- The error that is raised on account of what a call has brought about. -/
def answer : Except (Exn (Value U)) (Value U) → Exn (Value U)
  | .ok v => .thrown v
  | .error err => err

/-- Raises the error again, or the one that answers the misuse it makes. -/
def raiseAgain (inSequence : Bool) (err : Exn (Value U)) : Run U S α := fun w =>
  match err with
  | .thrown v =>
    if inSequence && e.surface.endsSequence v w.outside then e.complain .endedSequence w
    else (.raised (.thrown v), w)
  | err => (.raised err, w)

theorem raiseFrom_eq (f : Value U) (q : Bool) :
    (e.raiseFrom f q : Run U S α) = Action.attempt (e.call f []) >>= fun r => e.raiseAgain q (answer r) := by
  rw [raiseFrom]
  congr 1
  funext r w
  unfold raiseAgain answer
  rcases r with (_ | _ | _ | _ | v) | v
  case error.thrown | ok =>
    show (if _ then Run.complain e.surface .endedSequence else Action.raise (.thrown v) : Run U S α) w =
      if _ then e.complain .endedSequence w else (.raised (.thrown v), w)
    split <;> rfl
  all_goals rfl

theorem raiseAgain_raised (q : Bool) (err : Exn (Value U)) (w : World U S) :
    ∃ err' s, (e.raiseAgain q err : Run U S α) w = (.raised err', w.withOutside s) := by
  unfold raiseAgain
  split
  · split
    · exact ⟨_, _, rfl⟩
    · exact ⟨_, w.outside, rfl⟩
  · exact ⟨_, w.outside, rfl⟩

/-- Raising from a value leaves what the call leaves, but for a complaint. -/
theorem raiseFrom_snd (f : Value U) (q : Bool) (w : World U S) :
    ∃ s, ((e.raiseFrom f q : Run U S α) w).2 = (e.call f [] w).2.withOutside s := by
  rw [raiseFrom_eq, Action.bind_apply, Action.attempt_apply]
  rcases e.call f [] w with ⟨v | err | _, w₁⟩
  · obtain ⟨_, s, h⟩ := e.raiseAgain_raised (α := α) q (.thrown v) w₁
    exact ⟨s, congrArg Prod.snd h⟩
  · obtain ⟨_, s, h⟩ := e.raiseAgain_raised (α := α) q err w₁
    exact ⟨s, congrArg Prod.snd h⟩
  · exact ⟨w₁.outside, rfl⟩

/-- No call brings about a result where there is none: raising from a value never ends well. -/
theorem raiseFrom_not_done (f : Value U) (q : Bool) (w w' : World U S) (a : α) :
    (e.raiseFrom f q : Run U S α) w ≠ (.done a, w') := by
  intro h
  rw [raiseFrom_eq] at h
  obtain ⟨r, w₁, -, h⟩ := Action.bind_done_iff.mp h
  obtain ⟨err, s, hr⟩ : ∃ err s, (e.raiseAgain q (answer r) : Run U S α) w₁ = (.raised err, w₁.withOutside s) :=
    e.raiseAgain_raised q (answer r) w₁
  rw [hr] at h
  simp at h

theorem raiseAgain_bind (q : Bool) (err : Exn (Value U)) (k : α → Run U S β) :
    (e.raiseAgain q err : Run U S α) >>= k = e.raiseAgain q err := by
  funext w
  rw [Action.bind_apply]
  cases err with
  | thrown v =>
    simp only [raiseAgain]
    cases q && e.surface.endsSequence v w.outside <;> rfl
  | _ => rfl

/-- Nothing comes after raising from a value. -/
theorem raiseFrom_bind (f : Value U) (q : Bool) (k : α → Run U S β) :
    (e.raiseFrom f q : Run U S α) >>= k = e.raiseFrom f q := by
  rw [raiseFrom_eq, raiseFrom_eq, bind_assoc]
  exact congrArg (_ >>= ·) (funext fun r => e.raiseAgain_bind q (answer r) k)

theorem step_pure (a : α) : e.step (pure a) = pure a := rfl

/-- A computation in two steps is the two computations. -/
theorem step_bind (x : Step U S α) (f : α → Step U S β) : e.step (x >>= f) = e.step x >>= fun a => e.step (f a) := by
  funext w
  rw [Action.bind_apply, step_apply, step_apply, Action.bind_apply]
  rcases x w.outside with ⟨a | (err | ⟨v, q⟩) | _, s⟩
  · exact (e.step_apply (f a) (w.withOutside s)).symm
  · rfl
  · exact (congrFun (e.raiseFrom_bind v q fun a => e.step (f a)) (w.withOutside s)).symm
  · rfl

/-- A computation that is done has changed the specification's own state alone. -/
theorem step_done {x : Step U S α} {w w' : World U S} {a : α} (h : e.step x w = (.done a, w')) :
    ∃ s, x w.outside = (.done a, s) ∧ w' = w.withOutside s := by
  rw [step_apply] at h
  rcases hx : x w.outside with ⟨b | (err | ⟨f, q⟩) | _, s⟩
  · rw [hx] at h
    simp only [Prod.mk.injEq, Ending.done.injEq] at h
    obtain ⟨rfl, rfl⟩ := h
    exact ⟨s, rfl, rfl⟩
  · simp [hx] at h
  · rw [hx] at h
    exact absurd h (e.raiseFrom_not_done f q _ _ a)
  · simp [hx] at h

theorem step_done_iff {x : Step U S α} {w : World U S} {a : α} {s : S} :
    e.step x w = (.done a, w.withOutside s) ↔ x w.outside = (.done a, s) := by
  constructor
  · intro h
    obtain ⟨s', hx, hs⟩ := e.step_done h
    obtain rfl : s = s' := congrArg World.outside hs
    exact hx
  · exact e.step_of_done

/-- A notice that was taken down has left no more than itself. -/
theorem notice_done {n : Step U S Notice} {w w' : World U S} (h : e.notice n w = (.done (), w')) :
    ∃ s, w' = w.withOutside s ∨ ∃ m, w' = (w.withOutside s).record (.notice m) := by
  rw [Engine.notice, Action.get_bind_apply] at h
  split at h
  · obtain ⟨m, w₁, hm, hr⟩ := Action.bind_done_iff.mp h
    obtain ⟨s, -, rfl⟩ := e.step_done hm
    refine ⟨s, Or.inr ⟨m, ?_⟩⟩
    rw [Run.record, Action.modify_apply] at hr
    simpa using hr.symm
  · refine ⟨w.outside, Or.inl ?_⟩
    simpa [Action.pure_apply] using h.symm

/-- A notice whose text can be made without any effect is taken, and leaves at most itself. -/
theorem notice_of_done {n : Step U S Notice} {w : World U S} {m : Notice} (hn : n w.outside = (.done m, w.outside)) :
    e.notice n w = (.done (), w.noticed m) := by
  rw [Engine.notice, Action.get_bind_apply, World.noticed]
  split
  · exact Action.bind_done (e.step_of_done hn)
  · rfl

theorem notice_pure (n : Notice) (w : World U S) : e.notice (pure n) w = (.done (), w.noticed n) :=
  e.notice_of_done rfl

/-- A group that admits declarations is open, and asking changes nothing. -/
theorem ensureOpen_done {g : Nat} {w w' : World U S} (h : e.ensureOpen g w = (.done (), w')) :
    w.forest.isSealed g = false ∧ w' = w := by
  rw [Engine.ensureOpen, Action.get_bind_apply] at h
  split at h
  · obtain ⟨path, w₁, -, h⟩ := Action.bind_done_iff.mp h
    simp [Action.raise_apply] at h
  · next ho =>
    simp only [Action.pure_apply, Prod.mk.injEq, true_and] at h
    exact ⟨by simpa using ho, h.symm⟩

/-! ## Looking up -/

/-- An authoring error is raised in one way or another. -/
theorem raiseIn_not_done (sf : Surface U S) {f : Forest (Value U)} {scope : Scope (Value U)} {helper : Value U}
    {cause : Step U S AuthoringCause} {t t' : S} {b : α} : sf.raiseIn f scope helper cause t ≠ (.done b, t') := by
  intro h
  obtain ⟨path, t₁, -, h⟩ := Action.bind_done_iff.mp h
  obtain ⟨c, t₂, -, h⟩ := Action.bind_done_iff.mp h
  obtain ⟨n, t₃, -, h⟩ := Action.bind_done_iff.mp h
  obtain ⟨d, t₄, -, h⟩ := Action.bind_done_iff.mp h
  simp [Step.raise, Action.raise_apply] at h

theorem raiseUndefined_not_done {scope : Scope (Value U)} {name : HelperName (Value U)} {w w' : World U S}
    {v : Value U} : e.raiseUndefined scope name w ≠ (.done v, w') := by
  intro h
  obtain ⟨t, ht, -⟩ := e.step_done (h : e.step _ w = _)
  exact raiseIn_not_done _ ht

theorem raiseCircular_not_done {scope : Scope (Value U)} {path : List (HelperName (Value U))}
    {name : HelperName (Value U)} {w w' : World U S} {v : Value U} :
    e.raiseCircular scope path name w ≠ (.done v, w') := by
  intro h
  obtain ⟨t, ht, -⟩ := e.step_done (h : e.step _ w = _)
  exact raiseIn_not_done _ ht

theorem lookup_text (id : Nat) (name : String) : e.lookup id (.text name) = e.lookupName id (.text name) := by
  funext w
  exact Action.bind_done (e.step_of_done rfl)

/-- What follows on the computation of a name, whose value is kept if there is one. -/
theorem computing_apply (id : Nat) (name : HelperName (Value U)) (x : Run U S (Value U)) (k : Value U → Run U S α)
    (w : World U S) :
    (whileComputing id name x >>= fun v => Run.changeScope id (fun s => { s with memo := s.memo ++ [(name, v)] })
      >>= fun _ => k v) w = match x (w.enter id name) with
      | (.done v, w') => k v ((w'.leave id).keep id name v)
      | (.raised err, w') => (.raised err, w'.leave id)
      | (.exhausted, w') => (.exhausted, w'.leave id) := by
  have hc : whileComputing id name x w = ((x (w.enter id name)).1, (x (w.enter id name)).2.leave id) := rfl
  rw [Action.bind_apply, hc]
  rcases x (w.enter id name) with ⟨_ | _ | _, _⟩ <;> rfl

variable {w : World U S} {id : Nat} {s : Scope (Value U)} {name : HelperName (Value U)}

/-- A name that is being computed is refused. -/
theorem lookupName_of_path {path : List (HelperName (Value U))} (hs : w.scope? id = some s)
    (hk : s.kept? name = none) (hp : s.pathFrom? name = some path) :
    e.lookupName id name w = e.raiseCircular s path name w := by
  have h : (Run.scope id : Run U S _) w = (.done s, w) := by rw [Run.scope_apply, hs]
  rw [lookupName, Action.bind_done h, hk, hp]

/-- A name that is neither kept nor being computed is computed. -/
theorem lookupName_of_miss (hs : w.scope? id = some s) (hk : s.kept? name = none) (hp : s.pathFrom? name = none) :
    e.lookupName id name w = e.compute id s name w := by
  have h : (Run.scope id : Run U S _) w = (.done s, w) := by rw [Run.scope_apply, hs]
  rw [lookupName, Action.bind_done h, hk, hp]

/-- A name without definitions is refused. -/
theorem compute_of_nil {t : S}
    (hd : e.surface.definitionsFor w.forest s.owner.group name w.outside = (.done [], t)) :
    e.compute id s name w = e.raiseUndefined s name (w.withOutside t) := by
  rw [compute, Action.get_bind_apply, Action.bind_done (e.step_of_done hd)]
  rfl

/-- The notice that a name was computed, through so many definitions. -/
def resolvedNotice (name : HelperName (Value U)) (count : Nat) : Step U S Notice := do
  let text ← e.surface.textOf name.toValue
  pure (.resolvedHelper text count)

/-- The innermost definition runs, and its value is kept. -/
theorem compute_of_cons {t : S} {ds : List (Definition (Value U))} {d : Definition (Value U)}
    {outward : List (Definition (Value U))}
    (hd : e.surface.definitionsFor w.forest s.owner.group name w.outside = (.done ds, t))
    (hr : ds.reverse = d :: outward) :
    e.compute id s name w =
      match e.produce ⟨w.serials, id, d, outward⟩ ((w.withOutside t).counted.enter id name) with
      | (.done v, w') => (e.notice (e.resolvedNotice name ds.length) >>= fun _ => pure v) ((w'.leave id).keep id name v)
      | (.raised err, w') => (.raised err, w'.leave id)
      | (.exhausted, w') => (.exhausted, w'.leave id) := by
  rw [compute, Action.get_bind_apply, Action.bind_done (e.step_of_done hd), hr]
  exact computing_apply id name _ _ _

/-- A value was computed from some definition. -/
theorem compute_done {w' : World U S} {v : Value U} (h : e.compute id s name w = (.done v, w')) :
    ∃ ds t d outward, e.surface.definitionsFor w.forest s.owner.group name w.outside = (.done ds, t) ∧
      ds.reverse = d :: outward := by
  have hstep : (e.step (e.surface.definitionsFor w.forest s.owner.group name) >>= _) w = (.done v, w') := h
  obtain ⟨ds, w₁, hds, -⟩ := Action.bind_done_iff.mp hstep
  obtain ⟨t, hd, -⟩ := e.step_done hds
  rcases hr : ds.reverse with _ | ⟨d, outward⟩
  · obtain rfl := List.reverse_eq_nil_iff.mp hr
    rw [e.compute_of_nil hd] at h
    exact absurd h e.raiseUndefined_not_done
  · exact ⟨ds, t, d, outward, hd, hr⟩

end Engine

end Exemplar

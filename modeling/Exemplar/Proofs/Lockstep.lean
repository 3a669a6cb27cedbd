import Exemplar.Resolve
import Exemplar.Proofs.Kinship
import Exemplar.Proofs.Worlds

/-!
# Exemplar.Proofs.Lockstep — two computations side by side

Two computations go in step if from states that correspond they end alike and leave states behind that correspond.
Here this is carried from the questions that the two sides answer about values to all that the library derives from
the answers.

* `Action.Like`: going in step, with one law per way of composing actions.
* `Twin`: when two worlds correspond, told by what the single changes do that the library makes to a world.
* `Surface.Like`: two sides that answer alike; `describe`, `fullText`, `definitionsFor`, …: what follows.
-/

namespace Exemplar

/-! ## Endings -/

/-- Both are done with related results, both raise related errors, or both have run out of steps. -/
inductive Ending.Like {ε ε' α α' : Type} (E : ε → ε' → Prop) (R : α → α' → Prop) : Ending ε α → Ending ε' α' → Prop
  | done {a : α} {a' : α'} (h : R a a') : Like E R (.done a) (.done a')
  | raised {e : ε} {e' : ε'} (h : E e e') : Like E R (.raised e) (.raised e')
  | exhausted : Like E R .exhausted .exhausted

/-- Both are results or both are errors, and these are related. -/
inductive Except.Like {ε ε' α α' : Type} (E : ε → ε' → Prop) (R : α → α' → Prop) : Except ε α → Except ε' α' → Prop
  | error {e : ε} {e' : ε'} (h : E e e') : Like E R (.error e) (.error e')
  | ok {a : α} {a' : α'} (h : R a a') : Like E R (.ok a) (.ok a')

theorem Except.like_eq {ε α : Type} : Except.Like (@Eq ε) (@Eq α) = Eq :=
  eq_of_iff (by rintro _ _ (rfl | rfl) <;> rfl) (by rintro (_ | _) <;> constructor <;> rfl)

theorem Ending.like_eq {ε α : Type} : Ending.Like (@Eq ε) (@Eq α) = Eq :=
  eq_of_iff (by rintro _ _ (rfl | rfl | _) <;> rfl) (by rintro (_ | _ | _) <;> constructor <;> rfl)

/-! ## Actions -/

/-- Where alike means equal, alike endings are equal. -/
theorem Ending.Like.eq {U α : Type} {r r' : Ending (Exn (Value U)) α} (h : r.Like (Kinship.same (U := U)).Exn Eq r') :
    r = r' := by
  rwa [Kinship.same_exn, like_eq] at h

namespace Action

section
variable {ι σ σ' ε ε' α α' β β' : Type} {H : ι → σ → σ' → Prop} {E : ε → ε' → Prop} {R : α → α' → Prop}
  {Q : β → β' → Prop}

/-- From these two states on both end alike and leave states behind that are related by `i` again. -/
def LikeAt (H : ι → σ → σ' → Prop) (E : ε → ε' → Prop) (R : α → α' → Prop) (i : ι) (s : σ) (s' : σ')
    (x : Action σ ε α) (x' : Action σ' ε' α') : Prop := Ending.Like E R (x s).1 (x' s').1 ∧ H i (x s).2 (x' s').2

/-- From related states on both end alike and leave states behind that are related by the same. -/
def Like (H : ι → σ → σ' → Prop) (E : ε → ε' → Prop) (R : α → α' → Prop) (x : Action σ ε α) (x' : Action σ' ε' α') :
    Prop := ∀ i s s', H i s s' → LikeAt H E R i s s' x x'

theorem LikeAt.bind {i : ι} {s : σ} {s' : σ'} {x : Action σ ε α} {x' : Action σ' ε' α'} {f : α → Action σ ε β}
    {f' : α' → Action σ' ε' β'} (h : LikeAt H E R i s s' x x')
    (hf : ∀ a a' t t', x s = (.done a, t) → x' s' = (.done a', t') → R a a' → H i t t' →
      LikeAt H E Q i t t' (f a) (f' a')) : LikeAt H E Q i s s' (x >>= f) (x' >>= f') := by
  obtain ⟨he, hs⟩ := h
  unfold LikeAt
  rcases hx : x s with ⟨r, t⟩
  rcases hx' : x' s' with ⟨r', t'⟩
  rw [hx, hx'] at he hs
  cases he with
  | done h =>
    rw [bind_done hx, bind_done hx']
    exact hf _ _ t t' hx hx' h hs
  | raised h =>
    rw [bind_raised hx, bind_raised hx']
    exact ⟨.raised h, hs⟩
  | exhausted =>
    rw [bind_exhausted hx, bind_exhausted hx']
    exact ⟨.exhausted, hs⟩

theorem LikeAt.get {i : ι} {s : σ} {s' : σ'} {f : σ → Action σ ε α} {f' : σ' → Action σ' ε' α'}
    (h : LikeAt H E R i s s' (f s) (f' s')) : LikeAt H E R i s s' (Action.get >>= f) (Action.get >>= f') := h

theorem Like.pure {a : α} {a' : α'} (h : R a a') : Like H E R (Pure.pure a) (Pure.pure a') :=
  fun _ _ _ hs => ⟨.done h, hs⟩

theorem Like.raise {e : ε} {e' : ε'} (h : E e e') : Like H E R (Action.raise e) (Action.raise e') :=
  fun _ _ _ hs => ⟨.raised h, hs⟩

theorem Like.exhausted : Like H E R Action.exhausted Action.exhausted := fun _ _ _ hs => ⟨.exhausted, hs⟩

theorem Like.bind {x : Action σ ε α} {x' : Action σ' ε' α'} {f : α → Action σ ε β} {f' : α' → Action σ' ε' β'}
    (h : Like H E R x x') (hf : ∀ a a', R a a' → Like H E Q (f a) (f' a')) : Like H E Q (x >>= f) (x' >>= f') :=
  fun i s s' hs => (h i s s' hs).bind fun a a' t t' _ _ ha ht => hf a a' ha i t t' ht

/-- The law for results that are equal. -/
theorem Like.bind_eq {x : Action σ ε α} {x' : Action σ' ε' α} {f : α → Action σ ε β} {f' : α → Action σ' ε' β'}
    (h : Like H E Eq x x') (hf : ∀ a, Like H E Q (f a) (f' a)) : Like H E Q (x >>= f) (x' >>= f') :=
  h.bind fun a _ he => he ▸ hf a

theorem Like.attempt {x : Action σ ε α} {x' : Action σ' ε' α'} (h : Like H E R x x') :
    Like H E (Except.Like E R) (Action.attempt x) (Action.attempt x') := by
  intro i s s' hs
  obtain ⟨he, hs⟩ := h i s s' hs
  unfold LikeAt
  rcases hx : x s with ⟨r, t⟩
  rcases hx' : x' s' with ⟨r', t'⟩
  rw [hx, hx'] at he hs
  rw [attempt_apply, attempt_apply, hx, hx']
  cases he with
  | done h => exact ⟨.done (.ok h), hs⟩
  | raised h => exact ⟨.done (.error h), hs⟩
  | exhausted => exact ⟨.exhausted, hs⟩

theorem Like.ensure {x : Action σ ε α} {x' : Action σ' ε' α'} {after : σ → σ} {after' : σ' → σ'} (h : Like H E R x x')
    (ha : ∀ i s s', H i s s' → H i (after s) (after' s')) :
    Like H E R (Action.ensure x after) (Action.ensure x' after') := by
  intro i s s' hs
  obtain ⟨he, hs⟩ := h i s s' hs
  exact ⟨he, ha i _ _ hs⟩

theorem Like.get {f : σ → Action σ ε α} {f' : σ' → Action σ' ε' α'}
    (h : ∀ i s s', H i s s' → Like H E R (f s) (f' s')) : Like H E R (Action.get >>= f) (Action.get >>= f') :=
  fun i s s' hs => h i s s' hs i s s' hs

theorem Like.gets {f : σ → α} {f' : σ' → α'} (h : ∀ i s s', H i s s' → R (f s) (f' s')) :
    Like H E R (Action.gets f) (Action.gets f') :=
  fun i s s' hs => ⟨.done (h i s s' hs), hs⟩

theorem Like.modify {f : σ → σ} {f' : σ' → σ'} (h : ∀ i s s', H i s s' → H i (f s) (f' s')) :
    Like H E Eq (Action.modify f) (Action.modify f') :=
  fun i s s' hs => ⟨.done rfl, h i s s' hs⟩

/-- A branch on what both sides answer alike. -/
theorem Like.ite {b b' : Bool} {x y : Action σ ε α} {x' y' : Action σ' ε' α'} (hb : b' = b) (h : Like H E R x x')
    (h' : Like H E R y y') : Like H E R (if b then x else y) (if b' then x' else y') := by
  subst hb
  split
  · exact h
  · exact h'

end
end Action

/-! ## Twins -/

/-- When two worlds correspond. Every change that the library makes to one world, made to both, leaves worlds that
correspond by the same mark; a computation on the specification's own state keeps to a tie. Declarations on builders
are made in step where `declares` says so. -/
structure Twin {U : Type} (K : Kinship U) (S S' : Type) where
  Mark : Type
  holds : Mark → World U S → World U S' → Prop
  Tie : Type
  tie : Tie → S → S' → Prop
  declares : Nat → Declaration (Value U) → Nat → Declaration (Value U) → Prop
  outside {m : Mark} {w : World U S} {w' : World U S'} : holds m w w' →
    ∃ t, tie t w.outside w'.outside ∧ ∀ s s', tie t s s' → holds m (w.withOutside s) (w'.withOutside s')
  verbose {m : Mark} {w : World U S} {w' : World U S'} : holds m w w' → w'.verbose = w.verbose
  records {m : Mark} {w : World U S} {w' : World U S'} {ev ev' : Event (Value U)} : holds m w w' →
    ev.Like K.value ev' → holds m (w.record ev) (w'.record ev')
  counts {m : Mark} {w : World U S} {w' : World U S'} : holds m w w' →
    K.serial w.serials w'.serials ∧ holds m w.counted w'.counted
  recorders {m : Mark} {w : World U S} {w' : World U S'} : holds m w w' →
    K.recorder w.recorders.size w'.recorders.size ∧
      holds m { w with recorders := w.recorders.push .absent } { w' with recorders := w'.recorders.push .absent }
  meets {m : Mark} {w : World U S} {w' : World U S'} {r r' : Nat} {v v' : Value U} : holds m w w' →
    K.recorder r r' → K.value v v' → holds m { w with recorders := w.recorders.setIfInBounds r v }
      { w' with recorders := w'.recorders.setIfInBounds r' v' }
  recorded {m : Mark} {w : World U S} {w' : World U S'} {r r' : Nat} : holds m w w' → K.recorder r r' →
    K.value (w.recorded r) (w'.recorded r')
  scope? {m : Mark} {w : World U S} {w' : World U S'} {i i' : Nat} : holds m w w' → K.scope i i' →
    Option.Rel K.Scope (w.scope? i) (w'.scope? i')
  updates {m : Mark} {w : World U S} {w' : World U S'} {i i' : Nat}
    {c c' : Scope (Value U) → Scope (Value U)} : holds m w w' → K.scope i i' →
    (∀ s s', K.Scope s s' → K.Scope (c s) (c' s')) → holds m (w.updateScope i c) (w'.updateScope i' c')
  opens {m : Mark} {w : World U S} {w' : World U S'} {x x' : Example (Value U)} {ev ev' : Evaluator (Value U)} :
    holds m w w' → K.owner x x' → ev.Like K.value ev' →
    K.scope w.scopes.size w'.scopes.size ∧ holds m (w.opened x ev) (w'.opened x' ev')
  chain {m : Mark} {w : World U S} {w' : World U S'} {x x' : Example (Value U)} : holds m w w' → K.owner x x' →
    K.Chain w.forest x.group w'.forest x'.group

variable {U S S' : Type} {K : Kinship U}

namespace Twin

variable (T : Twin K S S') {α α' : Type}

/-- The two computations on the specification's own state go in step. -/
abbrev Steps (R : α → α' → Prop) : Step U S α → Step U S' α' → Prop := Action.Like T.tie K.Refusal R

/-- The two computations on the whole state go in step. -/
abbrev Runs (R : α → α' → Prop) : Run U S α → Run U S' α' → Prop := Action.Like T.holds K.Exn R

end Twin

/-! ## Questions about values -/

/-- The two sides answer every question about alike values alike. -/
structure Surface.Like (T : Twin K S S') (sf : Surface U S) (sf' : Surface U S') : Prop where
  repr {v v' : Value U} : K.value v v' → T.Steps Eq (sf.repr v) (sf'.repr v')
  str {v v' : Value U} : K.value v v' → T.Steps Eq (sf.str v) (sf'.str v')
  typeName {v v' : Value U} {t : T.Tie} {s : S} {s' : S'} : K.value v v' → T.tie t s s' →
    sf'.typeName v' s' = sf.typeName v s
  truthy {u u' : U} {t : T.Tie} {s : S} {s' : S'} : K.user u u' → T.tie t s s' → sf'.truthy u' s' = sf.truthy u s
  callable {u u' : U} {t : T.Tie} {s : S} {s' : S'} : K.user u u' → T.tie t s s' →
    sf'.callable u' s' = sf.callable u s
  signature? {v v' : Value U} {t : T.Tie} {s : S} {s' : S'} : K.value v v' → T.tie t s s' →
    sf'.signature? v' s' = sf.signature? v s
  class? {v v' : Value U} {t : T.Tie} {s : S} {s' : S'} : K.value v v' → T.tie t s s' →
    sf'.class? v' s' = sf.class? v s
  nameOf? {v v' : Value U} {t : T.Tie} {s : S} {s' : S'} : K.value v v' → T.tie t s s' →
    Option.Rel K.value (sf.nameOf? v s) (sf'.nameOf? v' s')
  ownText? {u u' : U} {t : T.Tie} {s : S} {s' : S'} : K.user u u' → T.tie t s s' →
    sf'.ownText? u' s' = sf.ownText? u s
  decoded? {u u' : U} {t : T.Tie} {s : S} {s' : S'} : K.user u u' → T.tie t s s' →
    sf'.decoded? u' s' = sf.decoded? u s
  items? {v v' : Value U} {t : T.Tie} {s : S} {s' : S'} : K.value v v' → T.tie t s s' →
    Option.Rel (List.Forall₂ K.value) (sf.items? v s) (sf'.items? v' s')
  key {v v' : Value U} : K.value v v' → T.Steps Eq (sf.key v) (sf'.key v')
  equal {a a' b b' : Value U} : K.value a a' → K.value b b' → T.Steps Eq (sf.equal a b) (sf'.equal a' b')
  identical {a a' b b' : Value U} {t : T.Tie} {s : S} {s' : S'} : K.value a a' → K.value b b' → T.tie t s s' →
    sf'.identical a' b' s' = sf.identical a b s
  isInstance {a a' b b' : Value U} : K.value a a' → K.value b b' →
    T.Steps Eq (sf.isInstance a b) (sf'.isInstance a' b')
  minus {a a' b b' : Value U} : K.value a a' → K.value b b' → T.Steps K.value (sf.minus a b) (sf'.minus a' b')
  magnitude {v v' : Value U} : K.value v v' → T.Steps K.value (sf.magnitude v) (sf'.magnitude v')
  atMost {a a' b b' : Value U} : K.value a a' → K.value b b' → T.Steps Eq (sf.atMost a b) (sf'.atMost a' b')
  kind {v v' : Value U} {t : T.Tie} {s : S} {s' : S'} : K.value v v' → T.tie t s s' → sf'.kind v' s' = sf.kind v s
  endsSequence {v v' : Value U} {t : T.Tie} {s : S} {s' : S'} : K.value v v' → T.tie t s s' →
    sf'.endsSequence v' s' = sf.endsSequence v s
  catches {a a' b b' : Value U} : K.value a a' → K.value b b' → T.Steps Eq (sf.catches a b) (sf'.catches a' b')
  complaint {t : T.Tie} {s : S} {s' : S'} (c : Complaint) : T.tie t s s' →
    K.value (sf.complaint c s).1 (sf'.complaint c s').1 ∧ T.tie t (sf.complaint c s).2 (sf'.complaint c s').2

namespace Surface.Like

variable {T : Twin K S S'} {sf : Surface U S} {sf' : Surface U S'} (a : Surface.Like T sf sf')
  {v v' : Value U} {t : T.Tie} {s : S} {s' : S'}
include a

theorem complain {α α' : Type} {R : α → α' → Prop} (c : Complaint) :
    T.Steps R (sf.complain c : Step U S α) (sf'.complain c) := by
  intro t s s' ht
  obtain ⟨hv, ht⟩ := a.complaint c ht
  exact ⟨.raised (.raised (.thrown hv)), ht⟩

theorem holds (hv : K.value v v') (ht : T.tie t s s') : sf'.holds v' s' = sf.holds v s := by
  cases K.value_iff.mp hv with
  | user h => exact a.truthy h ht
  | _ => rfl

theorem isCallable (hv : K.value v v') (ht : T.tie t s s') : sf'.isCallable v' s' = sf.isCallable v s := by
  cases K.value_iff.mp hv with
  | user h => exact a.callable h ht
  | _ => rfl

theorem text? (hv : K.value v v') (ht : T.tie t s s') : sf'.text? v' s' = sf.text? v s := by
  cases K.value_iff.mp hv with
  | user h => exact a.ownText? h ht
  | _ => rfl

theorem describesTarget (hv : K.value v v') (ht : T.tie t s s') :
    sf'.describesTarget v' s' = sf.describesTarget v s := by
  unfold Surface.describesTarget
  rw [a.text? hv ht, Kinship.isAbsent_eq hv]

theorem recordText? (hv : K.value v v') (ht : T.tie t s s') : sf'.recordText? v' s' = sf.recordText? v s := by
  cases K.value_iff.mp hv with
  | user h => simp only [Surface.recordText?, a.ownText? h ht, a.decoded? h ht]
  | _ => rfl

theorem isConstructible (hv : K.value v v') (ht : T.tie t s s') :
    sf'.isConstructible v' s' = sf.isConstructible v s := by
  unfold Surface.isConstructible
  rw [a.class? hv ht]

theorem kindOf {e e' : Exn (Value U)} (he : K.Exn e e') (ht : T.tie t s s') : sf'.kindOf e' s' = sf.kindOf e s := by
  cases he with
  | thrown h => exact a.kind h ht
  | _ => rfl

theorem argumentsFor (hv : K.value v v') {vs vs' : List (Value U)} (hvs : List.Forall₂ K.value vs vs')
    (ht : T.tie t s s') : List.Forall₂ K.value (sf.argumentsFor v vs s) (sf'.argumentsFor v' vs' s') := by
  have hp : sf'.parametersOf? v' s' = sf.parametersOf? v s := by
    have h := a.signature? hv ht
    cases K.value_iff.mp hv with
    | subjectOf => rfl
    | outer => rfl
    | _ => exact h
  unfold Surface.argumentsFor
  rw [hp, hvs.length_eq]
  exact List.forall₂_take _ hvs

theorem textOf (hv : K.value v v') : T.Steps Eq (sf.textOf v) (sf'.textOf v') := by
  have h := a.str hv
  cases K.value_iff.mp hv with
  | text t => exact .pure rfl
  | _ => exact h

theorem textsOf {vs vs' : List (Value U)} (hvs : List.Forall₂ K.value vs vs') :
    T.Steps Eq (sf.textsOf vs) (sf'.textsOf vs') := by
  have hgo (i : Nat) : T.Steps Eq (Surface.textsOf.go sf i vs) (Surface.textsOf.go sf' i vs') := by
    induction hvs generalizing i with
    | nil => exact .pure rfl
    | cons hv _ ih =>
      refine .get fun t s s' ht => ?_
      rw [a.text? hv ht, a.typeName hv ht]
      split
      · exact (ih (i + 1)).bind_eq fun ts => .pure rfl
      · exact a.complain _
  exact hgo 0

omit a in
theorem each {α α' β β' : Type} {R : α → α' → Prop} {Q : β → β' → Prop} {f : α → Step U S β} {f' : α' → Step U S' β'}
    (hf : ∀ x x', R x x' → T.Steps Q (f x) (f' x')) {l : List α} {l' : List α'} (h : List.Forall₂ R l l') :
    T.Steps (List.Forall₂ Q) (Surface.each f l) (Surface.each f' l') := by
  induction h with
  | nil => exact .pure .nil
  | cons hx _ ih =>
    exact (hf _ _ hx).bind fun b b' hb => ih.bind fun bs bs' hbs => .pure (.cons hb hbs)

theorem sequenceOf {α α' β β' : Type} {R : α → α' → Prop} {Q : β → β' → Prop} {f : α → Step U S β}
    {f' : α' → Step U S' β'} (hf : ∀ x x', R x x' → T.Steps Q (f x) (f' x')) {l : List α} {l' : List α'}
    (h : List.Forall₂ R l l') : T.Steps (List.Forall₂ Q) (sf.sequenceOf f l) (sf'.sequenceOf f' l') := by
  refine (each hf h).attempt.bind fun r r' hr => ?_
  cases hr with
  | ok hbs => exact .pure hbs
  | error hr =>
    cases hr with
    | unshowable h q => exact .raise (.unshowable h true)
    | raised he =>
      cases he with
      | thrown hv =>
        refine .get fun t s s' ht => ?_
        rw [a.endsSequence hv ht]
        split
        · exact a.complain _
        · exact .raise (.raised (.thrown hv))
      | _ => exact .raise (.raised (by constructor <;> assumption))

theorem nameOf (hv : K.value v v') : T.Steps K.value (sf.nameOf v) (sf'.nameOf v') := by
  refine .get fun t s s' ht => ?_
  have hname := a.nameOf? hv ht
  have htype := a.typeName hv ht
  generalize sf.nameOf? v s = o at hname ⊢
  generalize sf'.nameOf? v' s' = o' at hname ⊢
  cases hname with
  | some h => exact .pure h
  | none =>
    cases K.value_iff.mp hv with
    | scope h => exact a.complain _
    | _ =>
      simp only [htype]
      exact a.complain _

theorem describe (hv : K.value v v') : T.Steps Eq (sf.describe v) (sf'.describe v') := by
  have hname {t : T.Tie} {s : S} {s' : S'} (ht : T.tie t s s') :
      (sf'.nameOf? v' s').bind (fun n => sf'.text? n s') = (sf.nameOf? v s).bind fun n => sf.text? n s := by
    rcases sf.nameOf? v s, sf'.nameOf? v' s', a.nameOf? hv ht with ⟨_, _, h | _⟩
    · exact a.text? h ht
    · rfl
  cases K.value_iff.mp hv with
  | absent => exact .pure rfl
  | text t => exact .pure rfl
  | _ =>
    refine .get fun t s s' ht => ?_
    rw [a.text? hv ht, a.class? hv ht, hname ht]
    split
    · exact .pure rfl
    · exact .pure rfl
    · split
      · exact .pure rfl
      · exact a.repr hv

theorem groupText {f f' : Forest (Value U)} {g g' : Nat} (h : K.Level f f' g g') :
    T.Steps Eq (sf.groupText f g) (sf'.groupText f' g') := by
  have hd := h.description
  unfold Surface.groupText
  generalize f.group? g = o at hd ⊢
  generalize f'.group? g' = o' at hd ⊢
  cases o <;> cases o' <;> cases hd
  · exact .pure rfl
  · next h => exact a.describe h

theorem pathPart {f f' : Forest (Value U)} {g g' : Nat} (h : K.Level f f' g g') :
    T.Steps Eq (sf.pathPart f g) (sf'.pathPart f' g') := by
  refine (a.groupText h).bind_eq fun t => ?_
  split
  · exact .pure rfl
  · exact (a.groupText h).bind_eq fun _ => .pure rfl

theorem fullText {f f' : Forest (Value U)} {g g' : Nat}
    (h : List.Forall₂ (K.Level f f') (f.ancestors g) (f'.ancestors g')) :
    T.Steps Eq (sf.fullText f g) (sf'.fullText f' g') := by
  refine (a.sequenceOf (fun _ _ hl => a.pathPart hl) h).bind fun ts ts' hts => ?_
  rw [List.forall₂_eq_eq_eq] at hts
  exact hts ▸ .pure rfl

theorem displayName {f f' : Forest (Value U)} {x x' : Example (Value U)} (hx : K.owner x x')
    (h : K.Chain f x.group f' x'.group) : T.Steps K.value (sf.displayName f x) (sf'.displayName f' x') := by
  refine .get fun t s s' ht => .ite (a.holds (K.description hx) ht) (.pure (K.description hx)) ?_
  exact (a.fullText h.levels).bind_eq fun path => .pure (Kinship.text _)

theorem errorText {e e' : Exn (Value U)} (he : K.Exn e e') : T.Steps Eq (sf.errorText e) (sf'.errorText e') := by
  cases he with
  | failure h => exact a.textOf h
  | thrown h => exact a.textOf h
  | _ => exact .pure rfl

theorem describeFault (hv : K.value v v') : T.Steps Eq (sf.describeFault v) (sf'.describeFault v') := by
  refine (a.textOf hv).bind_eq fun text => ?_
  refine .get fun t s s' ht => ?_
  rw [a.typeName hv ht]
  exact .pure rfl

theorem mention (hv : K.value v v') : T.Steps Eq (sf.mention v) (sf'.mention v') := by
  refine .get fun t s s' ht => .ite (a.holds hv ht) ((a.textOf hv).bind_eq fun text => .pure rfl) (.pure rfl)

theorem helperName (hv : K.value v v') : T.Steps K.Name (sf.helperName v) (sf'.helperName v') := by
  cases K.value_iff.mp hv with
  | text t => exact .pure (.text t)
  | _ =>
    refine .get fun t s s' ht => ?_
    rw [a.text? hv ht]
    split
    · exact .pure (.textLike _ hv)
    · exact (a.key hv).bind_eq fun key => .pure (.other key hv)

theorem raiseIn {α α' : Type} {R : α → α' → Prop} {f f' : Forest (Value U)} {c c' : Scope (Value U)}
    (hc : K.Scope c c') (h : K.Chain f c.owner.group f' c'.owner.group) (hv : K.value v v')
    {cause : Step U S AuthoringCause} {cause' : Step U S' AuthoringCause} (hcause : T.Steps Eq cause cause') :
    T.Steps R (sf.raiseIn f c v cause : Step U S α) (sf'.raiseIn f' c' v' cause') := by
  refine (a.fullText h.levels).bind_eq fun path => ?_
  refine hcause.bind_eq fun cause => ?_
  refine (a.mention hv).bind ?_
  rintro helper _ rfl
  exact (a.mention (K.description hc.owner)).bind_eq fun description => .raise (.raised (.authoring _))

theorem definitionsFor {f f' : Forest (Value U)} {g g' : Nat} (h : K.Chain f g f' g')
    {n n' : HelperName (Value U)} (hn : K.Name n n') :
    T.Steps (List.Forall₂ K.Definition) (sf.definitionsFor f g n) (sf'.definitionsFor f' g' n') := by
  have hdeclared := h.declaredChain hn
  have htarget := h.target
  unfold Surface.definitionsFor
  refine .ite (hn.same_eq .subject) ?_ (.pure hdeclared)
  generalize f.target? g = o at htarget ⊢
  generalize f'.target? g' = o' at htarget ⊢
  cases htarget with
  | none => exact .pure hdeclared
  | some ht =>
    exact (a.fullText h.root).bind_eq fun path => .pure (.cons (.mk .subject (.target ht) (K.place_refl _)) hdeclared)

/-- A class by the name that it carries. -/
theorem nameText (hv : K.value v v') {k : String → Step U S String} {k' : String → Step U S' String}
    (hk : ∀ t, T.Steps Eq (k t) (k' t)) :
    T.Steps Eq (sf.nameOf v >>= fun n => sf.textOf n >>= k) (sf'.nameOf v' >>= fun n => sf'.textOf n >>= k') :=
  (a.nameOf hv).bind fun _ _ hn => (a.textOf hn).bind_eq hk

theorem matcherText {m m' : Matcher (Value U)} (hm : K.Matcher m m') :
    T.Steps Eq (sf.matcherText m) (sf'.matcherText m') := by
  obtain ⟨hv, hc⟩ := hm
  cases hc with
  | equalTo h => exact (a.repr h).bind_eq fun t => .pure rfl
  | same h => exact (a.repr h).bind_eq fun t => .pure rfl
  | @instanceOf c c' h =>
    refine .get fun t s s' ht => ?_
    have hitems := a.items? h ht
    generalize sf.items? c s = o at hitems ⊢
    generalize sf'.items? c' s' = o' at hitems ⊢
    cases hitems with
    | some hcs =>
      exact (each (fun _ _ h => a.nameOf h) hcs).bind fun names names' hnames =>
        (a.textsOf hnames).bind_eq fun texts => .pure rfl
    | none => exact a.nameText h fun text => .pure rfl
  | within hd hc => exact (a.repr hd).bind_eq fun d => (a.repr hc).bind_eq fun c => .pure rfl
  | includes h =>
    refine (a.sequenceOf (fun _ _ h => a.repr h) h).bind fun ts ts' hts => ?_
    rw [List.forall₂_eq_eq_eq] at hts
    exact hts ▸ .pure rfl
  | found p => exact .pure rfl
  | satisfies hp hl =>
    exact .get fun t s s' ht => .ite (a.holds hl ht) ((a.textOf hl).bind_eq fun t => .pure rfl) (.pure rfl)
  | raises hr he hm =>
    refine a.nameText he fun text => .ite (Kinship.isAbsent_eq hm) (.pure rfl) ?_
    exact (a.repr hm).bind_eq fun t => .pure rfl
  | own => exact a.repr hv

end Surface.Like

end Exemplar

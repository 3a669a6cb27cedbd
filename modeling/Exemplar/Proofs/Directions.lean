import Exemplar.Proofs.Aside
import Exemplar.Proofs.Bodies

/-!
# Exemplar.Proofs.Directions — an expectation and its contrary

An expectation has a direction, which nothing but the verdict depends on: what is called is the same both times, and so
is the world that is left. If an error comes instead of an answer, both directions raise it, or both have it as their
fault and are invalid. If the matcher answers, exactly one of them is valid.

* `Engine.Matched`: that the matcher was asked, about what, and what it answered.
* `Engine.evaluate_opposed`: the endings of the two directions.
* `Engine.judgeBlock`: the call of a block as a part of its own; `judgeBlock_counted`: it is made at most once.
* `Host.directions_opposed`: all of this for every host, with the calls that are made in either direction.
* `Engine.require_one_direction`: at most one of the two demands is met.
-/

namespace Exemplar

variable {U S : Type}

/-- A result that was caught is the result. -/
theorem Action.done_of_attempt {σ ε α : Type} {x : Action σ ε α} {s s' : σ} {a : α}
    (h : Action.attempt x s = (.done (.ok a), s')) : x s = (.done a, s') := by
  rw [Action.attempt_apply] at h
  rcases hx : x s with ⟨b | err | _, t⟩
  all_goals
    rw [hx] at h
    cases h
  rfl

/-- Ordinary errors are thrown by the code of the specification. -/
theorem Surface.thrown_of_ordinary {sf : Surface U S} {err : Exn (Value U)} {s : S} (h : sf.kindOf err s = .ordinary) :
    ∃ error, err = .thrown error := by
  cases err with
  | thrown error => exact ⟨error, rfl⟩
  | _ => cases h

namespace Engine

/-! ## Answers -/

/-- The matcher was asked about the source: the value that was observed, the answer, and the world that is left. A block
is called first and the matcher asked about its value, unless the matcher wants the block itself. -/
inductive Matched (e : Engine U S) (m : Matcher (Value U)) :
    Source (Value U) → World U S → Value U → Value U → World U S → Prop
  | value {v answer : Value U} {w w' : World U S} (h : e.matchActual m v w = (.done answer, w')) :
    Matched e m (.value v) w v answer w'
  | called {f v answer : Value U} {w asked called w' : World U S} (hq : e.wantsBlock m w = (.done false, asked))
    (hc : e.call f [] asked = (.done v, called)) (h : e.matchActual m v called = (.done answer, w')) :
    Matched e m (.block f) w v answer w'
  | given {f actual answer : Value U} {w asked matched w' : World U S} (hq : e.wantsBlock m w = (.done true, asked))
    (h : e.matchActual m f asked = (.done answer, matched)) (ho : e.observed m matched = (.done actual, w')) :
    Matched e m (.block f) w actual answer w'

/-- The endings of the two directions of an expectation, which leave the same world: the same error or the same fault,
or contrary verdicts on one answer. It is the same, too, whether there is an ending at all. -/
inductive Opposed (e : Engine U S) (source : Source (Value U)) (m : Matcher (Value U)) (w w' : World U S) :
    Ending (Exn (Value U)) (Verdict (Value U)) → Ending (Exn (Value U)) (Verdict (Value U)) → Prop
  | raised (err : Exn (Value U)) : Opposed e source m w w' (.raised err) (.raised err)
  | faulted (actual error : Value U) : Opposed e source m w w' (.done ⟨false, actual, some error, false, m⟩)
      (.done ⟨false, actual, some error, true, m⟩)
  | answered {actual answer : Value U} (h : e.Matched m source w actual answer w') :
    Opposed e source m w w' (.done ⟨e.surface.holds answer w'.outside, actual, none, false, m⟩)
      (.done ⟨!e.surface.holds answer w'.outside, actual, none, true, m⟩)
  | exhausted : Opposed e source m w w' .exhausted .exhausted

variable (e : Engine U S) {m : Matcher (Value U)} {w w' : World U S}

/-- An answer is one that the matcher gave. -/
theorem matched_of_judge {source : Source (Value U)} {actual answer : Value U}
    (h : e.judge source m w = (.done (actual, .ok answer), w')) : e.Matched m source w actual answer w' := by
  cases source with
  | value v =>
    obtain ⟨r, w₁, hr, hend⟩ := Action.bind_done_iff.mp h
    cases hend
    exact .value (Action.done_of_attempt hr)
  | block f =>
    obtain ⟨q, asked, hq, hrest⟩ := Action.bind_done_iff.mp h
    rcases q with err | _ | _
    case error => cases hrest
    case ok.false =>
      obtain ⟨c, called, hc, hanswer⟩ := Action.bind_done_iff.mp hrest
      cases c with
      | error err => cases hanswer
      | ok v =>
        obtain ⟨r, w₁, hr, hend⟩ := Action.bind_done_iff.mp hanswer
        cases hend
        exact .called (Action.done_of_attempt hq) (Action.done_of_attempt hc) (Action.done_of_attempt hr)
    case ok.true =>
      obtain ⟨r, w₁, hr, hend⟩ := Action.bind_done_iff.mp hrest
      rcases r with err | ⟨seen, given⟩
      · cases hend
      · cases hend
        obtain ⟨given, matched, hmatch, hseen⟩ := Action.bind_done_iff.mp (Action.done_of_attempt hr)
        obtain ⟨seen, w₂, hobserved, hend⟩ := Action.bind_done_iff.mp hseen
        cases hend
        exact .given (Action.done_of_attempt hq) hmatch hobserved

/-! ## Two directions -/

/-- What a verdict rests on leaves the world that is left. -/
theorem verdictOn_world (negate : Bool) (found : Value U × Except (Exn (Value U)) (Value U)) :
    (e.verdictOn negate m found w).2 = w := by
  obtain ⟨actual, answer⟩ := found
  cases answer with
  | ok answer => rfl
  | error err =>
    by_cases hk : e.surface.kindOf err w.outside = .ordinary
    · obtain ⟨error, rfl⟩ := Surface.thrown_of_ordinary hk
      rw [e.verdictOn_of_ordinary hk]
    · rw [e.verdictOn_of_passing hk]

/-- Both directions judge in one way, and leave the same world. -/
theorem evaluate_world (source : Source (Value U)) (negate : Bool) :
    (e.evaluate source negate m w).2 = (e.judge source m w).2 := by
  rw [evaluate_eq, Action.bind_apply]
  rcases e.judge source m w with ⟨found | err | _, w'⟩
  · exact e.verdictOn_world negate found
  · rfl
  · rfl

theorem evaluate_opposed (source : Source (Value U)) :
    e.Opposed source m w (e.judge source m w).2 (e.evaluate source false m w).1 (e.evaluate source true m w).1 := by
  rcases hj : e.judge source m w with ⟨⟨actual, answer⟩ | err | _, w'⟩
  · cases answer with
    | ok answer =>
      rw [e.evaluate_of_answer hj, e.evaluate_of_answer hj, Bool.bne_false, Bool.bne_true]
      exact .answered (e.matched_of_judge hj)
    | error err =>
      by_cases hk : e.surface.kindOf err w'.outside = .ordinary
      · obtain ⟨error, rfl⟩ := Surface.thrown_of_ordinary hk
        rw [e.evaluate_of_ordinary hj hk, e.evaluate_of_ordinary hj hk]
        exact .faulted actual error
      · rw [e.evaluate_of_passing hj hk, e.evaluate_of_passing hj hk]
        exact .raised err
  · rw [evaluate_eq, evaluate_eq, Action.bind_raised hj, Action.bind_raised hj]
    exact .raised err
  · rw [evaluate_eq, evaluate_eq, Action.bind_exhausted hj, Action.bind_exhausted hj]
    exact .exhausted

/-- Of the two demands that an expectation and its contrary make in one world, at most one is met. -/
theorem require_one_direction (source : Source (Value U)) (scope : Option Nat) {v v' : Verdict (Value U)}
    {w₁ w₂ : World U S} (h : e.require ⟨source, .standard, scope⟩ false m w = (.done v, w₁)) :
    e.require ⟨source, .standard, scope⟩ true m w ≠ (.done v', w₂) := by
  intro h'
  rw [require_standard] at h h'
  obtain ⟨u, t, hu, hmet⟩ := Action.bind_done_iff.mp h
  obtain ⟨u', t', hu', hmet'⟩ := Action.bind_done_iff.mp h'
  have hopposed := e.evaluate_opposed (m := m) (w := w) source
  rw [hu, hu'] at hopposed
  obtain ⟨hvalid, -⟩ := e.enforce_done hmet
  obtain ⟨hvalid', -⟩ := e.enforce_done hmet'
  cases hopposed with
  | faulted => cases hvalid
  | answered =>
    dsimp only at hvalid hvalid'
    rw [hvalid] at hvalid'
    cases hvalid'

/-! ## Calls of a block -/

/-- The judgement on a block that is given to the matcher as it is. -/
def judgeGiven (f : Value U) (m : Matcher (Value U)) : Run U S (Value U × Except (Exn (Value U)) (Value U)) := do
  match ← Action.attempt (e.matchBlock m f) with
  | .ok (actual, matched) => pure (actual, .ok matched)
  | .error error => pure (.absent, .error error)

/-- The judgement on the value that a call gives. -/
def judgeCalled (call : Run U S (Value U)) (m : Matcher (Value U)) :
    Run U S (Value U × Except (Exn (Value U)) (Value U)) := do
  match ← Action.attempt call with
  | .ok v => do
    let r ← Action.attempt (e.matchActual m v)
    pure (v, r)
  | .error error => pure (.absent, .error error)

/-- The judgement on a block that is called in the given way. -/
def judgeBlock (call : Run U S (Value U)) (f : Value U) (m : Matcher (Value U)) :
    Run U S (Value U × Except (Exn (Value U)) (Value U)) := do
  match ← Action.attempt (e.wantsBlock m) with
  | .error error => pure (.absent, .error error)
  | .ok true => e.judgeGiven f m
  | .ok false => e.judgeCalled call m

theorem judge_eq_judgeBlock (f : Value U) (m : Matcher (Value U)) :
    e.judge (.block f) m = e.judgeBlock (e.call f []) f m := rfl

/-- Calls a block and counts the call. -/
def countedCall (e : Engine U (S × Nat)) (f : Value U) : Run U (S × Nat) (Value U) := do
  Action.modify fun w => w.withOutside (w.outside.1, w.outside.2 + 1)
  e.call f []

end Engine

namespace Abreast

variable {L : Type} {e : Engine U S} {e' : Engine U (S × L)} (a : Abreast (Twin.kept U S L) e e')
include a

theorem judgeGiven (f : Value U) (m : Matcher (Value U)) :
    (Twin.kept U S L).Runs Eq (e.judgeGiven f m) (e'.judgeGiven f m) := by
  have hm := Kinship.Matcher.refl m
  have hmatch : (Twin.kept U S L).Runs Eq (e.matchBlock m f) (e'.matchBlock m f) :=
    Action.Like.bind_eq (a.matchActual hm rfl) fun matched =>
      Action.Like.bind_eq (a.observed hm) fun actual => .pure rfl
  refine hmatch.attempt_same.bind_eq fun r => ?_
  rcases r with err | ⟨actual, matched⟩
  · exact .pure rfl
  · exact .pure rfl

theorem judgeCalled (f : Value U) (m : Matcher (Value U)) :
    (Twin.kept U S L).Runs Eq (e.judgeCalled (e.call f []) m) (e'.judgeCalled (e'.call f []) m) := by
  have hm := Kinship.Matcher.refl m
  have hcall : (Twin.kept U S L).Runs Eq (e.call f []) (e'.call f []) := a.call rfl .nil
  refine hcall.attempt_same.bind_eq fun r => ?_
  cases r with
  | error err => exact .pure rfl
  | ok v =>
    have hanswer : (Twin.kept U S L).Runs Eq (e.matchActual m v) (e'.matchActual m v) := a.matchActual hm rfl
    exact hanswer.attempt_same.bind_eq fun r => .pure rfl

end Abreast

/-- While a block is judged, the judge itself calls it at most once, and not at all if the matcher is given the
block. -/
theorem Host.judgeBlock_counted (h : Host U S) (n : Nat) (f : Value U) (m : Matcher (Value U)) (w : World U S) :
    ∃ k ≤ 1, (h.beside.engine n).judgeBlock ((h.beside.engine n).countedCall f) f m (w.beside 0) =
      (((h.engine n).judge (.block f) m w).1, ((h.engine n).judge (.block f) m w).2.beside k) ∧
      ∀ asked, (h.engine n).wantsBlock m w = (.done true, asked) → k = 0 := by
  have a : Abreast (Twin.kept U S Nat) (h.engine n) (h.beside.engine n) := h.abreast_beside n
  have hm := Kinship.Matcher.refl m
  have hwants := (a.wantsBlock hm).attempt_same.apply_kept w 0
  rw [Engine.judge_eq_judgeBlock, Engine.judgeBlock, Engine.judgeBlock, Action.bind_apply, Action.bind_apply, hwants]
  rw [Action.attempt_apply]
  rcases hq : (h.engine n).wantsBlock m w with ⟨(_ | _) | err | _, asked⟩
  case done.false =>
    refine ⟨1, le_rfl, ?_, nofun⟩
    exact (a.judgeCalled f m).apply_kept asked 1
  case done.true =>
    refine ⟨0, Nat.zero_le 1, ?_, fun _ _ => rfl⟩
    exact (a.judgeGiven f m).apply_kept asked 0
  case raised => exact ⟨0, Nat.zero_le 1, rfl, nofun⟩
  case exhausted => exact ⟨0, Nat.zero_le 1, rfl, nofun⟩

/-- A verdict is the same with something beside the state. -/
theorem Host.verdictOn_beside {L : Type} (h : Host U S) (n : Nat) (negate : Bool) (m : Matcher (Value U))
    (found : Value U × Except (Exn (Value U)) (Value U)) (w : World U S) (l : L) :
    (h.beside.engine n).verdictOn negate m found (w.beside l) =
      (((h.engine n).verdictOn negate m found w).1, ((h.engine n).verdictOn negate m found w).2.beside l) := by
  obtain ⟨actual, answer⟩ := found
  cases answer with
  | ok answer => rfl
  | error err =>
    have hkind : (h.beside.engine n).surface.kindOf err (w.beside l).outside =
        (h.engine n).surface.kindOf err w.outside := by
      cases err <;> rfl
    by_cases hk : (h.engine n).surface.kindOf err w.outside = .ordinary
    · obtain ⟨error, rfl⟩ := Surface.thrown_of_ordinary hk
      rw [Engine.verdictOn_of_ordinary _ hk, Engine.verdictOn_of_ordinary _ (hkind.trans hk)]
    · rw [Engine.verdictOn_of_passing _ hk, Engine.verdictOn_of_passing _ (hkind ▸ hk)]

/-! ## Both directions, written down -/

namespace Host

variable (h : Host U S) (n : Nat) (source : Source (Value U)) (m : Matcher (Value U)) (w : World U S)

/-- The evaluation of an expectation, written down from its beginning on. -/
def toldEvaluation (negate : Bool) : Ending (Exn (Value U)) (Verdict (Value U)) × World U (S × Record U) :=
  (h.chronicler n).evaluate source negate m (w.beside .empty)

/-- An expectation that is evaluated while the run is written down has the verdict that it has otherwise, and leaves the
same world. -/
theorem evaluate_told (negate : Bool) : (h.engine n).evaluate source negate m w =
    ((h.toldEvaluation n source m w negate).1, (h.toldEvaluation n source m w negate).2.forget) := by
  have a := h.abreast_chronicler w.forest n
  have hstart : Told h.toSurface w.forest [] w (w.beside .empty) := ⟨rfl, rfl, trivial, [], rfl, .nil⟩
  have hsource : source.Like Eq source := Source.like_eq ▸ rfl
  have hm := Kinship.Matcher.refl m
  obtain ⟨hend, ht⟩ := a.evaluate hsource negate hm [] w (w.beside .empty) hstart
  rw [Kinship.same_verdict] at hend
  exact Prod.ext hend.eq ht.forget.symm

/-- An expectation and its contrary, evaluated in one world, call the same code with the same values in the same order
and leave the same world. Both raise the same error, or have the same fault and are invalid, or have no fault and the
same observed value, and then the one is valid if the matcher has answered with a value that counts as true, and the
contrary one if not. Of a block the judge makes one call at most, and a target is made without any. -/
theorem directions_opposed :
    ((h.engine n).evaluate source false m w).2 = ((h.engine n).evaluate source true m w).2 ∧
    (h.engine n).Opposed source m w ((h.engine n).evaluate source false m w).2
      ((h.engine n).evaluate source false m w).1 ((h.engine n).evaluate source true m w).1 ∧
    ((h.toldEvaluation n source m w false).2.outside.2.calls =
        (h.toldEvaluation n source m w true).2.outside.2.calls ∧
      ∀ negate, (h.engine n).evaluate source negate m w =
        ((h.toldEvaluation n source m w negate).1, (h.toldEvaluation n source m w negate).2.forget)) ∧
    (∀ f negate, source = .block f → ∃ k ≤ 1,
      ((h.beside.engine n).judgeBlock ((h.beside.engine n).countedCall f) f m >>=
        (h.beside.engine n).verdictOn negate m) (w.beside 0) =
          (((h.engine n).evaluate source negate m w).1, ((h.engine n).evaluate source negate m w).2.beside k)) ∧
    ∀ id, (h.chronicler (n + 1)).run (Program.ask (.observe fun v => v.target id source)).beside (w.beside .empty) =
      (.done (w.target id source), w.beside .empty) := by
  have hworld : ((h.engine n).evaluate source false m w).2 = ((h.engine n).judge source m w).2 :=
    (h.engine n).evaluate_world source false
  refine ⟨?_, ?_, ⟨?_, h.evaluate_told n source m w⟩, ?_, fun id => rfl⟩
  · rw [hworld, (h.engine n).evaluate_world source true]
  · rw [hworld]
    exact (h.engine n).evaluate_opposed source
  · have hsame : (h.toldEvaluation n source m w false).2 = (h.toldEvaluation n source m w true).2 := by
      unfold toldEvaluation
      rw [Engine.evaluate_world, Engine.evaluate_world]
    rw [hsame]
  · rintro f negate rfl
    obtain ⟨k, hk, hjudge, -⟩ := h.judgeBlock_counted n f m w
    refine ⟨k, hk, ?_⟩
    rw [Engine.evaluate_eq, Action.bind_apply, Action.bind_apply, hjudge]
    rcases (h.engine n).judge (.block f) m w with ⟨found | err | _, w'⟩
    · exact h.verdictOn_beside n negate m found w' k
    · rfl
    · rfl

end Host
end Exemplar

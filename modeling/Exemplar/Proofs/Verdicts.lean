import Exemplar.Proofs.Bodies
import Exemplar.Proofs.Leaving

/-!
# Exemplar.Proofs.Verdicts — the first expectation that is not met decides

A body that applies one expectation after another. Each is made ready, judged, and if it is met recorded as a success;
the first one that is not met ends the body, and what would come after it is not even made ready. The outcome tells of
that one, or of the last one if all were met.

* `Host.Met`: expectations that were met one after another, and what was recorded on the way.
* `Host.Unmet`: how the outcome tells of an expectation that is not met.
* `Host.Met.exec_append`: expectations that are met lead to those behind them.
* `Host.met_or_unmet`: there are no other cases, if nothing but judging goes on.
* `Host.first_unmet_decides`: the whole of it for the run of an example.
-/

namespace Exemplar

variable {U S : Type}

/-! ## Bodies -/

/-- Applies expectations one after another, each of which is made ready just before. -/
def Program.expectAll (id : Nat) : List (Program U S (Expectation (Value U))) → Program U S (Value U)
  | [] => .pure .absent
  | y :: ys => .bind y fun x => .bind (.expecting id x) fun _ => expectAll id ys

/-- A success, behind those that were recorded while its expectation was made ready and judged: an expectation that is
applied within a judged block or by a matcher may be recorded on the same scope. -/
structure Success (V : Type) where
  nested : List (Verdict V)
  verdict : Verdict V

/-- What was recorded on account of the expectation, in order. -/
def Success.recorded {V : Type} (r : Success V) : List (Verdict V) := r.nested ++ [r.verdict]

theorem getLast?_recorded {V : Type} (rs : List (Success V)) :
    (rs.flatMap Success.recorded).getLast? = rs.getLast?.map (·.verdict) := by
  induction rs using List.reverseRecOn with
  | nil => rfl
  | append_singleton rs r _ =>
    rw [List.flatMap_append, List.flatMap_singleton, Success.recorded, ← List.append_assoc, List.getLast?_concat,
      List.getLast?_concat]
    rfl

/-! ## Judging one expectation -/

namespace Host

variable (h : Host U S) (n id : Nat)

/-- The program makes the expectation ready, and judging that has come to an answer or to an error. -/
def Judges (y : Program U S (Expectation (Value U))) (w : World U S) (x : Expectation (Value U)) (actual : Value U)
    (answer : Except (Exn (Value U)) (Value U)) (w' : World U S) : Prop :=
  ∃ w₁, h.exec (n + 1) y w = (.done x, w₁) ∧
    (h.engine n).judge x.source x.matcher w₁ = (.done (actual, answer), w')

/-- The answer is what the direction asks for. -/
def Agrees (x : Expectation (Value U)) (matched : Value U) (w : World U S) : Bool :=
  h.toSurface.holds matched w.outside != x.negate

/-- The expectations are met one after another, and each is recorded. -/
inductive Met : List (Program U S (Expectation (Value U))) → World U S → List (Success (Value U)) → World U S → Prop
  | nil {w : World U S} : Met [] w [] w
  | cons {y : Program U S (Expectation (Value U))} {ys : List (Program U S (Expectation (Value U)))}
    {x : Expectation (Value U)} {actual matched : Value U} {nested : List (Verdict (Value U))}
    {rs : List (Success (Value U))} {w w₁ w' : World U S} (judged : h.Judges n y w x actual (.ok matched) w₁)
    (agrees : h.Agrees x matched w₁ = true) (recorded : w₁.successes id = w.successes id ++ nested)
    (rest : Met ys (w₁.succeed id (x.verdict true actual none)) rs w') :
    Met (y :: ys) w (⟨nested, x.verdict true actual none⟩ :: rs) w'

end Host

/-- The question to a custom matcher for its words on an expectation that is not met. -/
def Trait.failureIn (negate : Bool) : Trait := if negate then .failureMessageWhenNegated else .failureMessage

/-- In which words an expectation of that direction is told that a value does not meet: a custom matcher is called for
them; one that has no such function, or something that cannot be called, leaves it to the summary. A matcher of raised
errors has words of its own, and all others give the summary. -/
inductive Engine.Worded (e : Engine U S) (x : Expectation (Value U)) (actual : Value U) (w : World U S) :
    Value U → World U S → Prop
  | called {f text : Value U} {w₁ w₂ : World U S} (own : x.matcher.criterion = .own)
    (hook : e.run (e.host.traitOf x.matcher.value (.failureIn x.negate)) w = (.done (some f), w₁))
    (callable : e.surface.isCallable f w₁.outside = true) (call : e.call f [actual] w₁ = (.done text, w₂)) :
    Worded e x actual w text w₂
  | unanswered {text : String} {w₁ w₂ : World U S} (own : x.matcher.criterion = .own)
    (hook : e.run (e.host.traitOf x.matcher.value (.failureIn x.negate)) w = (.done none, w₁))
    (summary : e.summary (x.verdict false actual none) w₁ = (.done text, w₂)) : Worded e x actual w (.text text) w₂
  | uncallable {f : Value U} {text : String} {w₁ w₂ : World U S} (own : x.matcher.criterion = .own)
    (hook : e.run (e.host.traitOf x.matcher.value (.failureIn x.negate)) w = (.done (some f), w₁))
    (callable : e.surface.isCallable f w₁.outside = false)
    (summary : e.summary (x.verdict false actual none) w₁ = (.done text, w₂)) : Worded e x actual w (.text text) w₂
  | raises {r : Nat} {expected message : Value U} {text : String} {w₁ : World U S}
    (raises : x.matcher.criterion = .raises r expected message)
    (message : e.raisesMessage r x.matcher x.negate w = (.done text, w₁)) : Worded e x actual w (.text text) w₁
  | summed {text : String} {w₁ : World U S} (own : x.matcher.criterion ≠ .own)
    (raises : ∀ r expected message, x.matcher.criterion ≠ .raises r expected message)
    (summary : e.summary (x.verdict false actual none) w = (.done text, w₁)) : Worded e x actual w (.text text) w₁

namespace Engine

variable {e : Engine U S} {x : Expectation (Value U)} {actual text : Value U} {w w' : World U S}

/-- The function that a custom matcher names is called for its words, if it can be called. -/
theorem failureText_of_hook {f : Value U} {w₁ : World U S} (own : x.matcher.criterion = .own)
    (hook : e.run (e.host.traitOf x.matcher.value (.failureIn x.negate)) w = (.done (some f), w₁)) :
    e.failureText x.matcher x.negate actual w =
      if e.surface.isCallable f w₁.outside then (e.call f [actual] >>= fun text => pure (some text)) w₁
      else (.done none, w₁) := by
  rw [failureText, own]
  refine (Action.bind_done hook).trans ?_
  show (if e.surface.isCallable f w₁.outside then e.call f [actual] >>= fun text => pure (some text)
    else pure none : Run U S _) w₁ = _
  split <;> rfl

theorem failureText_of_none {w₁ : World U S} (own : x.matcher.criterion = .own)
    (hook : e.run (e.host.traitOf x.matcher.value (.failureIn x.negate)) w = (.done none, w₁)) :
    e.failureText x.matcher x.negate actual w = (.done none, w₁) := by
  rw [failureText, own]
  exact Action.bind_done hook

/-- These are the words of the diagnostic. -/
theorem worded_of_message (h : e.message (x.verdict false actual none) w = (.done text, w')) :
    e.Worded x actual w text w' := by
  obtain ⟨own, w₁, hown, hrest⟩ := Action.bind_done_iff.mp h
  replace hown : e.failureText x.matcher x.negate actual w = (.done own, w₁) := hown
  have hsummary (hnone : own = none) : ∃ t, text = .text t ∧
      e.summary (x.verdict false actual none) w₁ = (.done t, w') := by
    subst hnone
    obtain ⟨t, w₂, ht, hend⟩ := Action.bind_done_iff.mp hrest
    cases hend
    exact ⟨t, rfl, ht⟩
  have hsome {t : Value U} (hsome : own = some t) : t = text ∧ w₁ = w' := by
    subst hsome
    cases hrest
    exact ⟨rfl, rfl⟩
  cases hc : x.matcher.criterion with
  | own =>
    have hasked := hown
    rw [failureText, hc] at hasked
    obtain ⟨hook, w₂, hhook, -⟩ := Action.bind_done_iff.mp hasked
    cases hook with
    | none =>
      rw [failureText_of_none hc hhook] at hown
      cases hown
      obtain ⟨t, rfl, ht⟩ := hsummary rfl
      exact .unanswered hc hhook ht
    | some f =>
      rw [failureText_of_hook hc hhook] at hown
      split at hown
      · next hf =>
        obtain ⟨t, w₃, hcall, hend⟩ := Action.bind_done_iff.mp hown
        cases hend
        obtain ⟨rfl, rfl⟩ := hsome rfl
        exact .called hc hhook hf hcall
      · next hf =>
        cases hown
        obtain ⟨t, rfl, ht⟩ := hsummary rfl
        exact .uncallable hc hhook (by simpa using hf) ht
  | raises r expected message =>
    rw [failureText, hc] at hown
    obtain ⟨t, w₂, ht, hend⟩ := Action.bind_done_iff.mp hown
    cases hend
    obtain ⟨rfl, rfl⟩ := hsome rfl
    exact .raises hc ht
  | _ =>
    rw [failureText, hc] at hown
    obtain ⟨t, w₂, ht, hend⟩ := Action.bind_done_iff.mp hown
    cases hend
    obtain ⟨rfl, rfl⟩ := hsome rfl
    exact .summed (by simp [hc]) (by simp [hc]) ht

/-- The matcher's own words are the diagnostic. -/
theorem message_of_failureText {w₁ : World U S}
    (h : e.failureText x.matcher x.negate actual w = (.done (some text), w₁)) :
    e.message (x.verdict false actual none) w = (.done text, w₁) :=
  Action.bind_done h

/-- A matcher without words of its own leaves it to the summary. -/
theorem message_of_summary {w₁ : World U S} {t : String}
    (h : e.failureText x.matcher x.negate actual w = (.done none, w₁))
    (ht : e.summary (x.verdict false actual none) w₁ = (.done t, w')) :
    e.message (x.verdict false actual none) w = (.done (.text t), w') :=
  (Action.bind_done h).trans (Action.bind_done ht)

/-- There are these words, and no others. -/
theorem worded_iff : e.Worded x actual w text w' ↔ e.message (x.verdict false actual none) w = (.done text, w') := by
  refine ⟨fun h => ?_, worded_of_message⟩
  cases h with
  | called own hook callable call =>
    refine message_of_failureText ?_
    rw [failureText_of_hook own hook, if_pos callable]
    exact Action.bind_done call
  | unanswered own hook summary =>
    exact message_of_summary (failureText_of_none own hook) summary
  | uncallable own hook callable summary =>
    refine message_of_summary ?_ summary
    rw [failureText_of_hook own hook, if_neg (by simp [callable])]
  | raises raises message =>
    refine message_of_failureText ?_
    rw [failureText, raises]
    exact Action.bind_done message
  | summed own raises summary =>
    refine message_of_failureText ?_
    unfold failureText
    cases hc : x.matcher.criterion with
    | own => exact absurd hc own
    | raises r expected message => exact absurd hc (raises r expected message)
    | _ => exact Action.bind_done summary

end Engine

namespace Host

/-- The expectation is not met. The outcome is of that class and has that diagnostic, which is there in the second
world: the type and the text of the error that kept the expectation from being judged, or the matcher's words. -/
inductive Unmet (h : Host U S) (n : Nat) (y : Program U S (Expectation (Value U))) (w : World U S) :
    Tag → String → World U S → Prop
  | faulted {x : Expectation (Value U)} {actual error : Value U} {w₁ : World U S} {text : String} {s : S}
    (judged : h.Judges n y w x actual (.error (.thrown error)) w₁)
    (kind : h.toSurface.kind error w₁.outside = .ordinary)
    (told : h.toSurface.textOf error w₁.outside = (.done text, s)) :
    Unmet h n y w .errored (faultText (h.toSurface.typeName error s) text) (w₁.withOutside s)
  | missed {x : Expectation (Value U)} {actual matched text : Value U} {w₁ w₂ : World U S} {t : String} {s : S}
    (judged : h.Judges n y w x actual (.ok matched) w₁) (missed : h.Agrees x matched w₁ = false)
    (worded : (h.engine n).Worded x actual w₁ text w₂) (told : h.toSurface.textOf text w₂.outside = (.done t, s)) :
    Unmet h n y w .failed t (w₂.withOutside s)

variable {h : Host U S} {n id : Nat} {y : Program U S (Expectation (Value U))}
  {ys pre post : List (Program U S (Expectation (Value U)))} {x : Expectation (Value U)} {actual matched : Value U}
  {answer : Except (Exn (Value U)) (Value U)} {rs : List (Success (Value U))} {w w' : World U S}

/-! ## A body step by step -/

theorem Judges.carries (hj : h.Judges n y w x actual answer w') : w.Carries w' := by
  obtain ⟨w₁, hmake, hjudge⟩ := hj
  have hm : w.Carries (h.exec (n + 1) y w).2 := h.exec_carries (n + 1) y w
  have hc : w₁.Carries ((h.engine n).judge x.source x.matcher w₁).2 :=
    ((h.ledger_engine n).judge x.source x.matcher w₁ trivial).2
  rw [hmake] at hm
  rw [hjudge] at hc
  exact hm.trans hc

/-- What a body does that applies an expectation first: it is made ready and judged, then the verdict is enforced. -/
theorem exec_expectAll_cons (hw : w.Standard id) (hj : h.Judges n y w x actual answer w') {v : Verdict (Value U)}
    (hv : ∀ w₁, (h.engine n).judge x.source x.matcher w₁ = (.done (actual, answer), w') →
      (h.engine n).evaluate x.source x.negate x.matcher w₁ = (.done v, w')) :
    h.exec (n + 1) (Program.expectAll id (y :: ys)) w =
      ((h.engine n).enforce (some id) v >>= fun _ => h.exec (n + 1) (Program.expectAll id ys)) w' := by
  obtain ⟨w₁, hmake, hjudge⟩ := hj
  have hw₁ : w₁.Standard id := h.exec_standard (n + 1) hmake hw
  have hexpect : h.exec (n + 1) (Program.expecting id x) w₁ = (h.engine n).enforce (some id) v w' := by
    rw [h.expecting_apply n hw₁, Engine.require_standard, Action.bind_done (hv w₁ hjudge)]
  rw [Program.expectAll, exec_bind, Action.bind_done hmake, exec_bind, Action.bind_apply, hexpect, Action.bind_apply]

/-- An expectation that is met is recorded, and the body goes on. -/
theorem exec_of_agrees (hw : w.Standard id) (hj : h.Judges n y w x actual (.ok matched) w')
    (ha : h.Agrees x matched w' = true) : h.exec (n + 1) (Program.expectAll id (y :: ys)) w =
      h.exec (n + 1) (Program.expectAll id ys) (w'.succeed id (x.verdict true actual none)) := by
  rw [exec_expectAll_cons (v := x.verdict true actual none) hw hj]
  · exact Action.bind_done ((h.engine n).enforce_valid rfl rfl)
  · intro w₁ hjudge
    rw [(h.engine n).evaluate_of_answer hjudge]
    exact congrArg (fun b => (Ending.done (x.verdict b actual none), w')) ha

namespace Met

/-- Expectations that are met lead to those behind them; what was recorded on the way is recorded in order. -/
theorem exec_append (hm : h.Met n id pre w rs w') (hw : w.Standard id)
    (post : List (Program U S (Expectation (Value U)))) :
    h.exec (n + 1) (Program.expectAll id (pre ++ post)) w = h.exec (n + 1) (Program.expectAll id post) w' ∧
      w'.Standard id ∧ w'.successes id = w.successes id ++ rs.flatMap Success.recorded := by
  induction hm with
  | nil => exact ⟨rfl, hw, (List.append_nil _).symm⟩
  | @cons y ys x actual matched nested rs w w₁ w' hj ha hnested _ ih =>
    have hw₁ : w₁.Standard id := hw.carried hj.carries
    obtain ⟨hexec, hw', hsuccesses⟩ := ih (hw₁.succeeded _)
    refine ⟨?_, hw', ?_⟩
    · rw [List.cons_append, exec_of_agrees hw hj ha, hexec]
    · rw [hsuccesses, hw₁.successes_succeed, hnested, List.flatMap_cons, Success.recorded]
      simp only [List.append_assoc]

theorem exec (hm : h.Met n id ys w rs w') (hw : w.Standard id) :
    h.exec (n + 1) (Program.expectAll id ys) w = (.done .absent, w') := by
  have happend := (hm.exec_append hw []).1
  rwa [List.append_nil] at happend

theorem length_eq (hm : h.Met n id ys w rs w') : rs.length = ys.length := by
  induction hm with
  | nil => rfl
  | cons _ _ _ _ ih => rw [List.length_cons, List.length_cons, ih]

end Met

/-- An expectation that is not met ends the body with an error whose outcome is the one it is told by. -/
theorem Unmet.conclude {tag : Tag} {t : String} (hu : h.Unmet n y w tag t w') (hw : w.Standard id)
    (ys : List (Program U S (Expectation (Value U)))) (display : Value U) :
    ∃ err w₁, h.exec (n + 1) (Program.expectAll id (y :: ys)) w = (.raised err, w₁) ∧
      (h.engine (n + 1)).conclude display err w₁ = (h.engine (n + 1)).finish tag display (.text t) w' := by
  cases hu with
  | @faulted x actual error w₁ text s hj hk ht =>
    have hdescribe : (h.engine n).surface.describeFault error w₁.outside =
        (.done (faultText (h.toSurface.typeName error s) text), s) := Action.bind_done ht
    refine ⟨.fault (faultText (h.toSurface.typeName error s) text) error, w₁.withOutside s, ?_, ?_⟩
    · rw [exec_expectAll_cons (v := x.verdict false actual (some error)) hw hj]
      · exact Action.bind_raised ((h.engine n).enforce_fault rfl hdescribe)
      · exact fun w₀ hjudge => (h.engine n).evaluate_of_ordinary hjudge hk
    · exact ((h.engine (n + 1)).conclude_of_tag? rfl).trans rfl
  | @missed x actual matched text w₁ w₂ t s hj hmissed hworded ht =>
    have hmessage : (h.engine n).message (x.verdict false actual none) w₁ = (.done text, w₂) :=
      Engine.worded_iff.mp hworded
    refine ⟨.failure text, w₂, ?_, ?_⟩
    · rw [exec_expectAll_cons (v := x.verdict false actual none) hw hj]
      · exact Action.bind_raised ((h.engine n).enforce_invalid rfl rfl hmessage)
      · intro w₀ hjudge
        rw [(h.engine n).evaluate_of_answer hjudge]
        exact congrArg (fun b => (Ending.done (x.verdict b actual none), w₁)) hmissed
    · refine ((h.engine (n + 1)).conclude_of_tag? rfl).trans ?_
      exact Action.bind_done ((h.engine (n + 1)).step_of_done ht)

theorem Unmet.carries {tag : Tag} {t : String} (hu : h.Unmet n y w tag t w') : w.Carries w' := by
  cases hu with
  | faulted hj => exact hj.carries.trans (.of_scopes rfl)
  | @missed x actual matched text w₁ w₂ t s hj _ hworded =>
    have hc : w₁.Carries ((h.engine n).message (x.verdict false actual none) w₁).2 :=
      ((h.ledger_engine n).message (x.verdict false actual none) w₁ trivial).2
    rw [Engine.worded_iff.mp hworded] at hc
    exact (hj.carries.trans hc).trans (.of_scopes rfl)

/-! ## All of them -/

/-- Nothing but judging goes on when the expectation is applied in that world: it is made ready, is judged to an answer
or met by an ordinary error, and what is to be told of it can be put into words. -/
structure Judgeable (h : Host U S) (n : Nat) (y : Program U S (Expectation (Value U))) (w : World U S) : Prop where
  judged : ∃ x actual answer w', h.Judges n y w x actual answer w' ∧
    ∀ err, answer = .error err → ∃ error, err = .thrown error ∧ h.toSurface.kind error w'.outside = .ordinary
  faultTold {x : Expectation (Value U)} {actual error : Value U} {w' : World U S} :
    h.Judges n y w x actual (.error (.thrown error)) w' →
      ∃ text s, h.toSurface.textOf error w'.outside = (.done text, s)
  failureTold {x : Expectation (Value U)} {actual matched : Value U} {w₁ : World U S} :
    h.Judges n y w x actual (.ok matched) w₁ → h.Agrees x matched w₁ = false → ∃ text w₂ t s,
      (h.engine n).message (x.verdict false actual none) w₁ = (.done text, w₂) ∧
      h.toSurface.textOf text w₂.outside = (.done t, s)

/-- Nothing but judging goes on when the expectations are applied from the world on, as far as it comes. -/
def Orderly (h : Host U S) (n id : Nat) (ys : List (Program U S (Expectation (Value U)))) (w : World U S) : Prop :=
  ∀ pre y post rs w₁, ys = pre ++ y :: post → h.Met n id pre w rs w₁ → h.Judgeable n y w₁

/-- What is left is orderly after an expectation that was met. -/
theorem Orderly.tail (ho : h.Orderly n id (y :: ys) w) {nested : List (Verdict (Value U))}
    (hj : h.Judges n y w x actual (.ok matched) w') (ha : h.Agrees x matched w' = true)
    (hnested : w'.successes id = w.successes id ++ nested) :
    h.Orderly n id ys (w'.succeed id (x.verdict true actual none)) := by
  intro pre z post rs w₁ hys hm
  exact ho (y :: pre) z post _ w₁ (congrArg (y :: ·) hys) (.cons hj ha hnested hm)

/-- Expectations that can be judged wherever they are applied can be applied one after another. -/
theorem Orderly.of_forall (hy : ∀ y ∈ ys, ∀ w : World U S, h.Judgeable n y w) : h.Orderly n id ys w := by
  rintro pre y post rs w₁ rfl -
  exact hy y List.mem_append_cons_self w₁

/-- Either all of them are met, or there is a first one that is not. -/
theorem met_or_unmet (hw : w.Standard id) (ho : h.Orderly n id ys w) :
    (∃ rs w', h.Met n id ys w rs w') ∨
    ∃ pre y post rs w₁ tag t w', ys = pre ++ y :: post ∧ h.Met n id pre w rs w₁ ∧ h.Unmet n y w₁ tag t w' := by
  induction ys generalizing w with
  | nil => exact .inl ⟨[], w, .nil⟩
  | cons y ys ih =>
    have hunmet {tag : Tag} {t : String} {w' : World U S} (hu : h.Unmet n y w tag t w') :
        ∃ pre z post rs w₁ tag t w', y :: ys = pre ++ z :: post ∧ h.Met n id pre w rs w₁ ∧ h.Unmet n z w₁ tag t w' :=
      ⟨[], y, ys, [], w, tag, t, w', rfl, .nil, hu⟩
    have hfirst : h.Judgeable n y w := ho [] y ys [] w rfl .nil
    obtain ⟨x, actual, answer, w₁, hj, hordinary⟩ := hfirst.judged
    rcases answer with err | matched
    · obtain ⟨error, rfl, hk⟩ := hordinary err rfl
      obtain ⟨text, s, ht⟩ := hfirst.faultTold hj
      exact .inr (hunmet (.faulted hj hk ht))
    · cases ha : h.Agrees x matched w₁ with
      | false =>
        obtain ⟨text, w₂, t, s, hmessage, ht⟩ := hfirst.failureTold hj ha
        exact .inr (hunmet (.missed hj ha (Engine.worded_iff.mpr hmessage) ht))
      | true =>
        have hw₁ : w₁.Standard id := hw.carried hj.carries
        obtain ⟨nested, hnested⟩ := hj.carries.successes hw
        rcases ih (hw₁.succeeded _) (ho.tail hj ha hnested.symm) with
          ⟨rs, w', hm⟩ | ⟨pre, z, post, rs, w₂, tag, t, w', hys, hm, hu⟩
        · exact .inl ⟨_, w', .cons hj ha hnested.symm hm⟩
        · exact .inr ⟨y :: pre, z, post, _, w₂, tag, t, w', congrArg (y :: ·) hys, .cons hj ha hnested.symm hm, hu⟩

/-- How the outcome tells that all were met: by the summary of the last one, which is made in the first world and there
in the second one, or by the name of the example if there were none. -/
def ToldAll (h : Host U S) (n : Nat) (d : String) (rs : List (Success (Value U))) (w : World U S) (t : String)
    (w' : World U S) : Prop :=
  match rs.getLast? with
  | none => t = d ∧ w' = w
  | some r => (h.engine (n + 1)).summary r.verdict w = (.done t, w')

theorem ToldAll.succeed {d t : String} {display : Value U} (ht : h.ToldAll n d rs w t w')
    (hd : h.toSurface.IsText display d) (hw : w.Standard id) (hs : w.successes id = rs.flatMap Success.recorded) :
    ∃ w₁, (h.engine (n + 1)).succeed id display w = (.done ⟨.passed, d, t⟩, w₁) ∧ w₁.scopes = w'.scopes := by
  obtain ⟨s, hscope, -⟩ := hw
  have hlast : s.successes.getLast? = rs.getLast?.map (·.verdict) := by
    rw [World.successes, hscope] at hs
    rw [← getLast?_recorded, ← hs]
    rfl
  rw [Engine.succeed, Action.bind_apply, Run.scope_apply, hscope]
  dsimp only
  rw [hlast]
  unfold ToldAll at ht
  cases hr : rs.getLast? with
  | none =>
    rw [hr] at ht
    obtain ⟨rfl, rfl⟩ := ht
    obtain ⟨w₁, hf⟩ := (h.engine (n + 1)).finish_of_isText hd hd .passed w'
    exact ⟨w₁, hf, (h.engine (n + 1)).finish_scopes hf⟩
  | some r =>
    rw [hr] at ht
    obtain ⟨w₁, hf⟩ := (h.engine (n + 1)).finish_of_isText hd ((h.engine (n + 1)).surface.isText_text t) .passed w'
    exact ⟨w₁, (Action.bind_done ht).trans hf, (h.engine (n + 1)).finish_scopes hf⟩

end Host

/-- The first expectation that is not met decides. An example applies expectations one after another, on values or on
deferred blocks, in either direction and with any matchers; nothing raises an error but ordinary ones, and what is told
can be put into words. If all are met the example has passed, and its diagnostic is the summary of the last one, or its
name if there are none. Else there is a first one that is not met: the outcome is told by the error that kept it from
being judged, or by the words of its matcher, and the run is the same whatever expectations come after it, so none of
these is made ready or judged. In both cases the expectations before are recorded in order, each behind those that its
own judging has recorded. -/
theorem Host.first_unmet_decides (h : Host U S) {n id : Nat} {x : Example (Value U)} {body display : Value U}
    {d : String} {ys : List (Program U S (Expectation (Value U)))} {w begun : World U S} (hbody : x.body = some body)
    (hb : (h.engine (n + 1)).beginExample .standard x w = (.done (display, id), begun))
    (hd : h.toSurface.IsText display d) (hruns : h.RunsAs (n + 1) body id (Program.expectAll id ys))
    (ho : h.Orderly n id ys begun)
    (htold : ∀ rs r w₁, h.Met n id ys begun rs w₁ → rs.getLast? = some r →
      ∃ t w₂, (h.engine (n + 1)).summary r.verdict w₁ = (.done t, w₂)) :
    (∃ rs w₁ t w₂ w', h.Met n id ys begun rs w₁ ∧ rs.length = ys.length ∧
      w₁.successes id = rs.flatMap Success.recorded ∧ h.ToldAll n d rs w₁ t w₂ ∧
      (h.engine (n + 1)).runExample .standard x w = (.done ⟨.passed, d, t⟩, w') ∧
      w'.successes id = w₂.successes id) ∨
    ∃ pre y post rs w₁ tag t w₂ w', ys = pre ++ y :: post ∧ h.Met n id pre begun rs w₁ ∧ rs.length = pre.length ∧
      w₁.successes id = rs.flatMap Success.recorded ∧ h.Unmet n y w₁ tag t w₂ ∧
      (h.engine (n + 1)).runExample .standard x w = (.done ⟨tag, d, t⟩, w') ∧
      w'.successes id = w₂.successes id ∧ w₁.successes id <+: w₂.successes id ∧
      ∀ other post', h.RunsAs (n + 1) other id (Program.expectAll id (pre ++ y :: post')) →
        (h.engine (n + 1)).runCalling .standard x other w = (h.engine (n + 1)).runExample .standard x w := by
  have hscope := (h.engine (n + 1)).beginExample_scope hb
  have hstandard : begun.Standard id := ⟨_, hscope, rfl⟩
  have hnone : begun.successes id = [] := by
    rw [World.successes, hscope]
    rfl
  have hcalling {other : Value U} {p : Program U S (Value U)} (hp : h.RunsAs (n + 1) other id p) :
      (h.engine (n + 1)).runCalling .standard x other w =
        (h.engine (n + 1)).settle display id (h.exec (n + 1) p) begun :=
    Engine.runCalling_of_runsAs hb hp
  have hrun := ((h.engine (n + 1)).runExample_eq .standard x hbody) ▸ hcalling hruns
  rcases met_or_unmet hstandard ho with ⟨rs, w₁, hm⟩ | ⟨pre, y, post, rs, w₁, tag, t, w₂, rfl, hm, hu⟩
  · left
    obtain ⟨-, hw₁, hs⟩ := hm.exec_append hstandard []
    rw [hnone, List.nil_append] at hs
    obtain ⟨t, w₂, ht⟩ : ∃ t w₂, h.ToldAll n d rs w₁ t w₂ := by
      unfold ToldAll
      cases hr : rs.getLast? with
      | none => exact ⟨d, w₁, rfl, rfl⟩
      | some r => exact htold rs r w₁ hm hr
    obtain ⟨w', hsucceed, hscopes⟩ := ht.succeed hd hw₁ hs
    refine ⟨rs, w₁, t, w₂, w', hm, hm.length_eq, hs, ht, ?_, ?_⟩
    · rw [hrun, (h.engine (n + 1)).settle_of_done (hm.exec hstandard), hsucceed]
    · rw [World.successes, World.scope?, hscopes]
      rfl
  · right
    obtain ⟨-, hw₁, hs⟩ := hm.exec_append hstandard []
    rw [hnone, List.nil_append] at hs
    have hends (post' : List (Program U S (Expectation (Value U)))) :
        (h.engine (n + 1)).settle display id (h.exec (n + 1) (Program.expectAll id (pre ++ y :: post'))) begun =
          (h.engine (n + 1)).finish tag display (.text t) w₂ := by
      obtain ⟨err, w₃, hraised, hconclude⟩ := hu.conclude hw₁ post' display
      have hexec := (hm.exec_append hstandard (y :: post')).1
      rw [(h.engine (n + 1)).settle_of_raised (hexec.trans hraised), hconclude]
    obtain ⟨w', hf⟩ := (h.engine (n + 1)).finish_of_isText hd ((h.engine (n + 1)).surface.isText_text t) tag w₂
    have hx : (h.engine (n + 1)).runExample .standard x w = (.done ⟨tag, d, t⟩, w') := by
      rw [hrun, hends, hf]
    refine ⟨pre, y, post, rs, w₁, tag, t, w₂, w', rfl, hm, hm.length_eq, hs, hu, hx, ?_, ?_, fun other post' hp => ?_⟩
    · rw [World.successes, World.scope?, (h.engine (n + 1)).finish_scopes hf]
      rfl
    · exact hu.carries.successes hw₁
    · rw [hcalling hp, hends, hx, hf]

/-- An expectation on a source to equal a number. -/
def Expectation.number (source : Source (Value Nat)) (negate : Bool) (u : Nat) : Expectation (Value Nat) :=
  ⟨source, negate, ⟨.absent, .equalTo (.user u)⟩⟩

/-- The number 5 equals 5, and what the block under 1 gives does not equal 4. The block under 2 raises an error, and
what comes after it would not be met. -/
def thirdFaulted : List (Program Nat Unit (Expectation (Value Nat))) :=
  [.pure (.number (.value (.user 5)) false 5), .pure (.number (.block (.user 1)) true 4),
    .pure (.number (.block (.user 2)) false 5), .pure (.number (.block (.user 1)) false 6)]

/-- The body under 0 applies these expectations, the block under 1 gives a number, and the one under 2 raises one. -/
def thirdFaultedCode : NumberedCode
  | 0, [.scope i] => .expectAll i thirdFaulted
  | 2, _ => .raise (.thrown (.user 9))
  | _, _ => .pure (.user 5)

/-- Where all numbers can be shown an expectation to equal one can be told, so it need only be judged. -/
theorem Host.judgeable_number {code : NumberedCode} {source : Source (Value Nat)} {negate : Bool} {u : Nat}
    {w w' : World Nat Unit} {actual : Value Nat} {answer : Except (Exn (Value Nat)) (Value Nat)}
    (hj : ((Host.numbers (fun _ => false) code).engine 1).judge source ⟨.absent, .equalTo (.user u)⟩ w =
      (.done (actual, answer), w')) (ha : ∀ err, answer = .error err → ∃ error, err = .thrown error) :
    (Host.numbers (fun _ => false) code).Judgeable 1 (.pure (.number source negate u)) w where
  judged := ⟨_, actual, answer, w', ⟨w, rfl, hj⟩, fun err he => (ha err he).imp fun _ h => ⟨h, rfl⟩⟩
  faultTold {x actual error w'} _ := by
    cases error <;> exact ⟨_, _, rfl⟩
  failureTold {x actual matched w₁} hm _ := by
    obtain ⟨w₂, hmake, -⟩ := hm
    cases hmake
    cases actual <;> exact ⟨_, _, _, _, rfl, rfl⟩

/-- Each of them can be judged wherever it is applied. -/
theorem thirdFaulted_judgeable (y : Program Nat Unit (Expectation (Value Nat))) (hy : y ∈ thirdFaulted)
    (w : World Nat Unit) : (Host.numbers (fun _ => false) thirdFaultedCode).Judgeable 1 y w := by
  simp only [thirdFaulted, List.mem_cons, List.not_mem_nil, or_false] at hy
  rcases hy with rfl | rfl | rfl | rfl
  · exact Host.judgeable_number rfl (by simp)
  · exact Host.judgeable_number rfl (by simp)
  · exact Host.judgeable_number rfl (by simp)
  · exact Host.judgeable_number rfl (by simp)

/-- The third expectation decides: two were recorded, and the error of the block is told. -/
theorem third_unmet_decides :
    ∃ pre y post w₁ tag t w₂ w', ∃ rs : List (Success (Value Nat)), thirdFaulted = pre ++ y :: post ∧
      rs.length = pre.length ∧ (Host.numbers (fun _ => false) thirdFaultedCode).Unmet 1 y w₁ tag t w₂ ∧
      ((Host.numbers (fun _ => false) thirdFaultedCode).engine 2).runExample .standard (.numbered 0)
        (singleWorld .absent) = (.done ⟨tag, "first", t⟩, w') ∧
      tag = .errored ∧ t = "number: 9" ∧ (w'.successes 0).length = 2 := by
  have hends : ∃ w', ((Host.numbers (fun _ => false) thirdFaultedCode).engine 2).runExample .standard (.numbered 0)
      (singleWorld .absent) = (.done ⟨.errored, "first", "number: 9"⟩, w') ∧ (w'.successes 0).length = 2 :=
    ⟨_, rfl, rfl⟩
  obtain ⟨w', hw', htwo⟩ := hends
  have hbegun : ((Host.numbers (fun _ => false) thirdFaultedCode).engine 2).beginExample .standard (.numbered 0)
      (singleWorld .absent) = (.done (.text "first", 0), (singleWorld .absent).opened (.numbered 0) .standard) := rfl
  have hruns : (Host.numbers (fun _ => false) thirdFaultedCode).RunsAs 2 (.user 0) 0 (.expectAll 0 thirdFaulted) := rfl
  have htold : ∀ rs r w₁, (Host.numbers (fun _ => false) thirdFaultedCode).Met 1 0 thirdFaulted
      ((singleWorld .absent).opened (.numbered 0) .standard) rs w₁ → rs.getLast? = some r →
        ∃ t w₂, ((Host.numbers (fun _ => false) thirdFaultedCode).engine 2).summary r.verdict w₁ = (.done t, w₂) := by
    -- The third one is not met, so not all of them are.
    rintro rs r w₁ (_ | ⟨_, _, _, hm⟩) -
    obtain _ | ⟨_, _, _, hm⟩ := hm
    obtain _ | ⟨⟨_, hmake, hjudge⟩, _⟩ := hm
    cases hmake
    cases hjudge
  rcases Host.first_unmet_decides _ rfl hbegun (Surface.isText_text _ _) hruns (.of_forall thirdFaulted_judgeable)
    htold with
    ⟨rs, w₁, t, w₂, w'', -, -, -, -, hrun, -⟩ | ⟨pre, y, post, rs, w₁, tag, t, w₂, w'', hys, -, hlength, -, hu, hrun, -⟩
  · cases hrun.symm.trans hw'
  · cases hrun.symm.trans hw'
    exact ⟨pre, y, post, w₁, _, _, w₂, w', rs, hys, hlength, hu, hw', rfl, rfl, htwo⟩

/-- The body under 0 expects the block under 1 to give 5, and the block expects the same of the number 5. -/
def nestingCode : NumberedCode
  | 0, [.scope i] => .expectAll i [.pure (.number (.block (.user 1)) false 5)]
  | _, _ => .bind (.expecting 0 (.number (.value (.user 5)) false 5)) fun _ => .pure (.user 5)

/-- One expectation, which is met, and two successes: what the block expects is recorded on the same scope. -/
theorem nested_success_recorded :
    ((Host.numbers (fun _ => false) nestingCode).RunsAs 2 (.user 0) 0
      (.expectAll 0 [.pure (.number (.block (.user 1)) false 5)])) ∧
    ∃ w', ((Host.numbers (fun _ => false) nestingCode).engine 2).runExample .standard (.numbered 0)
      (singleWorld .absent) = (.done ⟨.passed, "first", "expected 5 to eq 5"⟩, w') ∧ (w'.successes 0).length = 2 :=
  ⟨rfl, _, rfl, rfl⟩

end Exemplar

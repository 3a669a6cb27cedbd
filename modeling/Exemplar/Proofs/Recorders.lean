import Exemplar.Proofs.Bodies
import Exemplar.Proofs.Leaving

/-!
# Exemplar.Proofs.Recorders — matchers of raised errors

A matcher of raised errors is given a deferred block, calls it and sorts out how it has ended. What it has met it keeps
in a recorder, where the evaluator and the matcher's own words look it up afterwards. The recorder is emptied before the
block is called, and whoever uses the same matcher within the block writes to the same recorder.

* `Engine.Sees`: what the matcher sees of the ending of a block, by the order in which it asks.
* `Engine.evaluate_block_raises`: the block is called once, and what follows depends on its ending alone.
* `Engine.afterBlock_of_sees`: the verdict on what the matcher has seen.
* `Host.raised_errors_told`: a new matcher, in both directions.
* `Host.reused_agrees_iff`: when a matcher that has been used before comes to the same verdict as a new one.
-/

namespace Exemplar

variable {U S α β : Type}

/-! ## Recorders -/

namespace World

variable (w : World U S) (r : Nat) (v : Value U)

/-- The world in which a recorder has met the value. -/
def meets : World U S := { w with recorders := w.recorders.setIfInBounds r v }

/-- The world with one more recorder, which has met nothing. -/
def recording : World U S := { w with recorders := w.recorders.push .absent }

@[simp] theorem recorded_withOutside (s : S) : (w.withOutside s).recorded r = w.recorded r := rfl

variable {w r}

/-- Only what a recorder has met last is kept. -/
theorem meets_meets (u : Value U) : (w.meets r u).meets r v = w.meets r v := by
  rw [meets, meets, meets, Array.setIfInBounds_setIfInBounds]

theorem recorded_meets (hr : r < w.recorders.size) : (w.meets r v).recorded r = v := by
  rw [recorded, meets, Array.getElem?_setIfInBounds_self_of_lt hr]
  rfl

/-- The last recorder is empty at first. -/
theorem meets_recording : w.recording.meets w.recorders.size .absent = w.recording := by
  have hset : (w.recorders.push .absent).setIfInBounds w.recorders.size .absent = w.recorders.push .absent := by
    refine Array.ext_getElem? fun i => ?_
    rw [Array.getElem?_setIfInBounds]
    split
    · next hi => simp [← hi]
    · rfl
  rw [meets, recording]
  exact congrArg (fun l => { w with recorders := l }) hset

end World

/-- Recorders that stay, as a frame. -/
def recorderFrame : Frame U S where
  holds _ := True
  leads w w' := w.recorders.size ≤ w'.recorders.size
  refl _ := Nat.le_refl _
  trans := Nat.le_trans
  stays _ _ := trivial
  outside _ _ := Nat.le_refl _
  tells _ _ _ := Nat.le_refl _
  counts _ := Nat.le_refl _
  recorders _ _ h := h
  declares _ _ := Nat.le_refl _
  succeeds _ _ _ _ _ := Nat.le_refl _
  opens _ _ _ := Nat.le_refl _
  computes _ _ _ _ _ := ⟨trivial, fun _ h => ⟨h, fun _ => h⟩⟩

theorem Host.call_keeps_recorders (h : Host U S) (n : Nat) (f : Value U) (w : World U S) :
    w.recorders.size ≤ ((h.engine n).call f [] w).2.recorders.size :=
  ((recorderFrame.alike_engine h n).call f [] w trivial).2

/-- A recorder is still there after a call, however it has ended. -/
theorem Host.lt_recorders_of_call (h : Host U S) {n r : Nat} {f : Value U} {w called : World U S}
    {result : Except (Exn (Value U)) (Value U)} (hr : r < w.recorders.size)
    (hc : Action.attempt ((h.engine n).call f []) w = (.done result, called)) : r < called.recorders.size := by
  have hkept := h.call_keeps_recorders n f w
  rw [Action.attempt_apply] at hc
  rcases hx : (h.engine n).call f [] w with ⟨_ | _ | _, w'⟩ <;> rw [hx] at hc hkept <;> cases hc
  all_goals exact Nat.lt_of_lt_of_le hr hkept

/-! ## What the matcher sees -/

/-- What a matcher of raised errors sees of a block: no error; an error of the expected sort, with or without the text
that was asked for; another ordinary error; or one that is not for it. -/
inductive Seen (V : Type) where
  | nothing
  | expected (error : V) (agrees : Bool)
  | other (error : V)
  | passing (err : Exn V)

/-- What comes of judging a block by what was seen of it: a verdict and the world in which the recorder holds an error
of the expected sort, or the error that was not for the matcher. -/
def Seen.judged (negate : Bool) (m : Matcher (Value U)) (r : Nat) (w : World U S) :
    Seen (Value U) → Ending (Exn (Value U)) (Verdict (Value U)) × World U S
  | .nothing => (.done ⟨negate, w.recorded r, none, negate, m⟩, w)
  | .expected error agrees => (.done ⟨agrees != negate, error, none, negate, m⟩, w.meets r error)
  | .other error => (.done ⟨false, .absent, some error, negate, m⟩, w)
  | .passing err => (.raised err, w)

namespace Engine

variable (e : Engine U S)

/-- What the matcher sees of the result of a block in that state, and the state after it has asked. Errors of the
library's own families pass before anything is asked; then the expected sort is asked for, and only an error of another
sort is looked at for whether it is an ordinary one. An exit that a specification raises is a value like any other
error; the library's own exit is raised around a whole run and never within a block. -/
inductive Sees (expected message : Value U) (s : S) : Except (Exn (Value U)) (Value U) → Seen (Value U) → S → Prop
  | nothing {v : Value U} : Sees expected message s (.ok v) .nothing s
  | own {err : Exn (Value U)} (own : (e.surface.kindOf err s).isOwn = true) :
    Sees expected message s (.error err) (.passing err) s
  | exit {code : Nat} : Sees expected message s (.error (.exit code)) (.passing (.exit code)) s
  | expected {error : Value U} {agrees : Bool} {s₁ s₂ : S} (own : (e.surface.kind error s).isOwn = false)
    (caught : e.surface.catches expected error s = (.done true, s₁))
    (text : e.messageAgrees error message s₁ = (.done agrees, s₂)) :
    Sees expected message s (.error (.thrown error)) (.expected error agrees) s₂
  | other {error : Value U} {s₁ : S} (own : (e.surface.kind error s).isOwn = false)
    (caught : e.surface.catches expected error s = (.done false, s₁))
    (ordinary : e.surface.kind error s₁ = .ordinary) :
    Sees expected message s (.error (.thrown error)) (.other error) s₁
  | beyond {error : Value U} {s₁ : S} (own : (e.surface.kind error s).isOwn = false)
    (caught : e.surface.catches expected error s = (.done false, s₁))
    (ordinary : e.surface.kind error s₁ ≠ .ordinary) :
    Sees expected message s (.error (.thrown error)) (.passing (.thrown error)) s₁

/-- What the matcher asks about an error is answered. -/
def Answers (expected message error : Value U) (s : S) : Prop :=
  ∃ caught s₁, e.surface.catches expected error s = (.done caught, s₁) ∧
    (caught = true → ∃ agrees s₂, e.messageAgrees error message s₁ = (.done agrees, s₂))

/-- The matcher sees something of every result, if its questions are answered. -/
theorem sees_of_answers {expected message : Value U} {s : S} {result : Except (Exn (Value U)) (Value U)}
    (h : ∀ error, result = .error (.thrown error) → (e.surface.kind error s).isOwn = false →
      e.Answers expected message error s) :
    ∃ seen s', e.Sees expected message s result seen s' := by
  rcases result with err | v
  · cases err with
    | thrown error =>
      cases ho : (e.surface.kind error s).isOwn with
      | true => exact ⟨_, s, .own ho⟩
      | false =>
        obtain ⟨caught, s₁, hcaught, htext⟩ := h error rfl ho
        cases caught with
        | true =>
          obtain ⟨agrees, s₂, hagrees⟩ := htext rfl
          exact ⟨_, s₂, .expected ho hcaught hagrees⟩
        | false =>
          by_cases hk : e.surface.kind error s₁ = .ordinary
          · exact ⟨_, s₁, .other ho hcaught hk⟩
          · exact ⟨_, s₁, .beyond ho hcaught hk⟩
    | exit code => exact ⟨_, s, .exit⟩
    | _ => exact ⟨_, s, .own rfl⟩
  · exact ⟨_, s, .nothing⟩

/-! ## The verdict on a block -/

/-- What the matcher makes of the result of a block. -/
def sortOut (recorder : Nat) (expected message : Value U) (result : Except (Exn (Value U)) (Value U)) : Run U S Bool :=
  match result with
  | .ok _ => pure false
  | .error (.thrown error) => do
    let w ← Action.get
    if (e.surface.kind error w.outside).isOwn then Action.raise (.thrown error)
    else
      let caught ← e.step (e.surface.catches expected error)
      if caught then
        Run.setRecorder recorder error
        e.step (e.messageAgrees error message)
      else Action.raise (.thrown error)
  | .error other => Action.raise other

/-- What a matcher of raised errors answers, and what it has observed by then. -/
def answered (recorder : Nat) (answer : Except (Exn (Value U)) Bool) :
    Run U S (Value U × Except (Exn (Value U)) (Value U)) :=
  match answer with
  | .ok b => do
    let actual ← Action.gets (·.recorded recorder)
    pure (actual, .ok (.flag b))
  | .error err => pure (.absent, .error err)

/-- The verdict of a matcher of raised errors on the result of a block. -/
def afterBlock (negate : Bool) (m : Matcher (Value U)) (recorder : Nat) (expected message : Value U)
    (result : Except (Exn (Value U)) (Value U)) : Run U S (Verdict (Value U)) :=
  Action.attempt (e.sortOut recorder expected message result) >>= fun answer =>
    answered recorder answer >>= e.verdictOn negate m

variable {e} {f v expected message : Value U} {w : World U S} {r : Nat} {negate : Bool}

theorem raisesExpected_of_callable (hf : e.surface.isCallable f w.outside = true) :
    e.raisesExpected r expected message f w =
      (Action.attempt (e.call f []) >>= e.sortOut r expected message) (w.meets r .absent) := by
  rw [raisesExpected, Action.get_bind_apply, hf]
  rfl

theorem judge_block_raises :
    e.judge (.block f) ⟨v, .raises r expected message⟩ w =
      (Action.attempt (e.raisesExpected r expected message f) >>= answered r) w := by
  have hmatch : (e.matchActual ⟨v, .raises r expected message⟩ f >>= fun matched => e.observed
      ⟨v, .raises r expected message⟩ >>= fun actual => pure (actual, matched)) =
        e.raisesExpected r expected message f >>= fun b =>
          Action.gets (·.recorded r) >>= fun actual => pure (actual, Value.flag b) := by
    simp only [matchActual, observed, bind_assoc, pure_bind]
  have hwants : e.wantsBlock ⟨v, .raises r expected message⟩ w = (.done true, w) := rfl
  rw [judge]
  refine (Action.bind_done (Action.attempt_of_done hwants)).trans ?_
  dsimp only
  rw [hmatch, Action.bind_apply, Action.bind_apply, Action.attempt_apply, Action.attempt_apply, Action.bind_apply]
  rcases e.raisesExpected r expected message f w with ⟨b | err | _, w'⟩ <;> rfl

/-- The block is called once, after the recorder has been emptied; what follows knows nothing of the block but how it
has ended. -/
theorem evaluate_block_raises (hf : e.surface.isCallable f w.outside = true) :
    e.evaluate (.block f) negate ⟨v, .raises r expected message⟩ w =
      (Action.attempt (e.call f []) >>= e.afterBlock negate ⟨v, .raises r expected message⟩ r expected message)
        (w.meets r .absent) := by
  have hattempt : Action.attempt (e.raisesExpected r expected message f) w =
      (Action.attempt (e.call f []) >>= fun result => Action.attempt (e.sortOut r expected message result))
        (w.meets r .absent) := by
    rw [Action.attempt_apply, raisesExpected_of_callable hf, Action.bind_apply, Action.bind_apply, Action.attempt_apply]
    rcases e.call f [] (w.meets r .absent) with ⟨_ | _ | _, w'⟩ <;> rfl
  calc e.evaluate (.block f) negate ⟨v, .raises r expected message⟩ w
    _ = (Action.attempt (e.raisesExpected r expected message f) >>= answered r >>= e.verdictOn negate _) w := by
      rw [evaluate_eq, Action.bind_apply, judge_block_raises, ← Action.bind_apply]
    _ = (Action.attempt (e.call f []) >>= e.afterBlock negate _ r expected message) (w.meets r .absent) := by
      rw [bind_assoc, Action.bind_apply, hattempt, ← Action.bind_apply, bind_assoc]
      rfl

/-- Whatever the recorder has met before, the block is judged as if it had met nothing. -/
theorem evaluate_meets (hf : e.surface.isCallable f w.outside = true) (found : Value U) :
    e.evaluate (.block f) negate ⟨v, .raises r expected message⟩ (w.meets r found) =
      e.evaluate (.block f) negate ⟨v, .raises r expected message⟩ w := by
  have hf' : e.surface.isCallable f (w.meets r found).outside = true := hf
  rw [evaluate_block_raises hf, evaluate_block_raises hf', World.meets_meets]

section
variable {seen : Seen (Value U)} {result : Except (Exn (Value U)) (Value U)} {s : S} {m : Matcher (Value U)}

theorem afterBlock_of_answer {b : Bool} {w' : World U S}
    (h : e.sortOut r expected message result w = (.done b, w')) :
    e.afterBlock negate m r expected message result w =
      (.done ⟨b != negate, w'.recorded r, none, negate, m⟩, w') :=
  Action.bind_done (Action.attempt_of_done h)

theorem afterBlock_of_error {err : Exn (Value U)} {w' : World U S}
    (h : e.sortOut r expected message result w = (.raised err, w')) :
    e.afterBlock negate m r expected message result w = e.verdictOn negate m (.absent, .error err) w' :=
  Action.bind_done (Action.attempt_of_raised h)

theorem sortOut_of_own {err : Exn (Value U)} (ho : (e.surface.kindOf err w.outside).isOwn = true) :
    e.sortOut r expected message (.error err) w = (.raised err, w) := by
  cases err with
  | thrown error =>
    have ho' : (e.surface.kind error w.outside).isOwn = true := ho
    rw [sortOut, Action.get_bind_apply, ho']
    rfl
  | _ => rfl

/-- An error that is not of the library's families is tried, and noted if it is of the expected sort. -/
theorem sortOut_of_tried {error : Value U} {caught : Bool} (ho : (e.surface.kind error w.outside).isOwn = false)
    (hc : e.surface.catches expected error w.outside = (.done caught, s)) :
    e.sortOut r expected message (.error (.thrown error)) w =
      if caught then e.step (e.messageAgrees error message) ((w.meets r error).withOutside s)
      else (.raised (.thrown error), w.withOutside s) := by
  rw [sortOut, Action.get_bind_apply, ho]
  refine (Action.bind_done (e.step_of_done hc)).trans ?_
  cases caught <;> rfl

/-- The verdict is on what was seen. -/
theorem afterBlock_of_sees (hs : e.Sees expected message w.outside result seen s) (hr : r < w.recorders.size) :
    e.afterBlock negate m r expected message result w = seen.judged negate m r (w.withOutside s) := by
  cases hs with
  | nothing =>
    refine (afterBlock_of_answer rfl).trans ?_
    rw [Bool.false_bne]
    rfl
  | @own err ho =>
    have hk : e.surface.kindOf err w.outside ≠ .ordinary := by
      intro hk
      rw [hk] at ho
      cases ho
    exact (afterBlock_of_error (sortOut_of_own ho)).trans (e.verdictOn_of_passing hk)
  | exit => exact (afterBlock_of_error rfl).trans rfl
  | @expected error agrees s₁ _ ho hc ht =>
    have hsort : e.sortOut r expected message (.error (.thrown error)) w =
        (.done agrees, (w.meets r error).withOutside s) := (sortOut_of_tried ho hc).trans (e.step_of_done ht)
    rw [afterBlock_of_answer hsort, World.recorded_withOutside, World.recorded_meets error hr]
    rfl
  | other ho hc hk => exact (afterBlock_of_error (sortOut_of_tried ho hc)).trans (e.verdictOn_of_ordinary hk)
  | beyond ho hc hk => exact (afterBlock_of_error (sortOut_of_tried ho hc)).trans (e.verdictOn_of_passing hk)

/-- What a block is judged to that has ended in that way. -/
theorem evaluate_of_sees {called : World U S} (hf : e.surface.isCallable f w.outside = true)
    (hc : Action.attempt (e.call f []) (w.meets r .absent) = (.done result, called))
    (hs : e.Sees expected message called.outside result seen s) (hr : r < called.recorders.size) :
    e.evaluate (.block f) negate ⟨v, .raises r expected message⟩ w =
      seen.judged negate ⟨v, .raises r expected message⟩ r (called.withOutside s) := by
  rw [evaluate_block_raises hf, Action.bind_done hc, afterBlock_of_sees hs hr]

end

/-! ## Words -/

variable (e) in
/-- How a matcher of raised errors whose recorder holds that value tells that it was not met. -/
def raisesWording (m : Matcher (Value U)) (negate : Bool) (found : Value U) : Step U S String := do
  let wanted ← e.surface.matcherText m
  if found.isAbsent && !negate then pure ("expected block to " ++ wanted ++ " but nothing was raised")
  else
    let shown ← e.surface.repr found
    pure ("expected block " ++ (if negate then "not to " else "to ") ++ wanted ++ " but it raised " ++ shown)

variable (e) in
/-- The diagnostic of a verdict by a matcher of raised errors whose recorder holds that value. -/
def wording (v : Verdict (Value U)) (found : Value U) : Step U S String :=
  match v.fault with
  | some error => e.surface.describeFault error
  | none =>
    if v.valid then do
      let actual ← e.surface.repr v.actual
      let wanted ← e.surface.matcherText v.matcher
      pure ("expected " ++ actual ++ (if v.negate then " not to " else " to ") ++ wanted)
    else e.raisesWording v.matcher v.negate found

variable {m : Matcher (Value U)} {wanted shown : String} {s s₁ s₂ : S} {found : Value U}

/-- The recorder is looked up between two computations of the specification's own, which leave it alone. -/
theorem raisesMessage_eq_step : e.raisesMessage r m negate w = e.step (e.raisesWording m negate (w.recorded r)) w := by
  rw [raisesMessage, raisesWording, step_bind, Action.bind_apply, Action.bind_apply]
  rcases hx : e.step (e.surface.matcherText m) w with ⟨wanted | err | _, w'⟩
  · obtain ⟨s, -, rfl⟩ := e.step_done hx
    dsimp only
    rw [Action.bind_apply]
    dsimp only [Action.gets_apply, World.recorded_withOutside]
    cases (w.recorded r).isAbsent && !negate with
    | true => rfl
    | false => simp only [Bool.false_eq_true, if_false, step_bind, step_pure]
  · rfl
  · rfl

theorem message_eq_step {x : Verdict (Value U)} (hx : x.matcher.criterion = .raises r expected message) :
    e.message x w = e.step (e.wording x (w.recorded r) >>= fun text => pure (.text text)) w := by
  obtain ⟨valid, actual, fault, negate, u, c⟩ := x
  obtain rfl : c = .raises r expected message := hx
  cases fault with
  | some error => simp only [Engine.message, wording, step_bind, step_pure]
  | none =>
    cases valid with
    | true =>
      simp only [Engine.message, summary, describeMatcher, wording, if_true, step_bind, step_pure, bind_assoc,
        pure_bind]
    | false =>
      simp only [Engine.message, failureText, wording, Bool.false_eq_true, if_false, step_bind, step_pure, bind_assoc,
        pure_bind]
      rw [Action.bind_apply, raisesMessage_eq_step, ← Action.bind_apply]

theorem message_done_iff {x : Verdict (Value U)} (hx : x.matcher.criterion = .raises r expected message)
    {text : String} :
    e.message x w = (.done (.text text), w.withOutside s) ↔ e.wording x (w.recorded r) w.outside = (.done text, s) := by
  rw [message_eq_step hx, e.step_done_iff, Action.bind_done_iff]
  constructor
  · rintro ⟨a, t, hw, hp⟩
    cases hp
    exact hw
  · exact fun hw => ⟨text, s, hw, rfl⟩

theorem raisesWording_of_silence (ht : e.surface.matcherText m s = (.done wanted, s₁)) :
    e.raisesWording m false .absent s = (.done ("expected block to " ++ wanted ++ " but nothing was raised"), s₁) :=
  Action.bind_done ht

theorem raisesWording_of_error (ht : e.surface.matcherText m s = (.done wanted, s₁))
    (hs : e.surface.repr found s₁ = (.done shown, s₂)) (ha : found.isAbsent = false) :
    e.raisesWording m negate found s = (.done
      ("expected block " ++ (if negate then "not to " else "to ") ++ wanted ++ " but it raised " ++ shown), s₂) := by
  refine (Action.bind_done ht).trans ?_
  rw [ha]
  exact Action.bind_done hs

end Engine

/-! ## A new matcher -/

/-- What was seen can be put into words in that state, where there is something to be told of it. -/
def Seen.Wordable (sf : Surface U S) (m : Matcher (Value U)) (s : S) : Seen (Value U) → Prop
  | .nothing => ∃ wanted s₁, sf.matcherText m s = (.done wanted, s₁)
  | .expected error _ => error.isAbsent = false ∧
    ∃ wanted s₁ shown s₂, sf.matcherText m s = (.done wanted, s₁) ∧ sf.repr error s₁ = (.done shown, s₂)
  | .other error => ∃ text s₁, sf.describeFault error s = (.done text, s₁)
  | .passing _ => True

namespace Engine

variable (e : Engine U S)

/-- How an expectation of raised errors ends from the world in which the matcher has seen what it sees, by that and by
the direction. -/
inductive Decides (id r : Nat) (m : Matcher (Value U)) (w : World U S) :
    Seen (Value U) → Bool → Ending (Exn (Value U)) (Verdict (Value U)) × World U S → Prop
  /-- In both directions an error that is not for the matcher goes on its way. -/
  | passing {err : Exn (Value U)} {negate : Bool} : Decides id r m w (.passing err) negate (.raised err, w)
  /-- In both directions another ordinary error is wrapped in a fault. -/
  | other {error : Value U} {negate : Bool} {text : String} {s : S}
    (ht : e.surface.describeFault error w.outside = (.done text, s)) :
    Decides id r m w (.other error) negate (.raised (.fault text error), w.withOutside s)
  /-- An error of the expected sort is what was expected if it has the text that was asked for. -/
  | met {error : Value U} {agrees : Bool} :
    Decides id r m w (.expected error agrees) (!agrees)
      (.done ⟨true, error, none, !agrees, m⟩, (w.meets r error).succeed id ⟨true, error, none, !agrees, m⟩)
  | unmet {error : Value U} {agrees : Bool} {wanted shown : String} {s₁ s₂ : S}
    (ht : e.surface.matcherText m w.outside = (.done wanted, s₁)) (hs : e.surface.repr error s₁ = (.done shown, s₂)) :
    Decides id r m w (.expected error agrees) agrees
      (.raised (.failure (.text
        ("expected block " ++ (if agrees then "not to " else "to ") ++ wanted ++ " but it raised " ++ shown))),
        (w.meets r error).withOutside s₂)
  /-- Nothing is not what was expected. -/
  | quiet :
    Decides id r m w .nothing true (.done ⟨true, .absent, none, true, m⟩, w.succeed id ⟨true, .absent, none, true, m⟩)
  | silent {wanted : String} {s : S} (ht : e.surface.matcherText m w.outside = (.done wanted, s)) :
    Decides id r m w .nothing false
      (.raised (.failure (.text ("expected block to " ++ wanted ++ " but nothing was raised"))), w.withOutside s)

variable {e} {f v expected message : Value U} {w : World U S} {r id : Nat} {negate : Bool}
  {seen : Seen (Value U)} {result : Except (Exn (Value U)) (Value U)} {s : S}

/-- What the matcher sees decides, if it can be put into words and the recorder is still empty where nothing is seen. -/
theorem decides_of_sees (hs : e.Sees expected message w.outside result seen s) (hr : r < w.recorders.size)
    (hempty : seen = .nothing → w.recorded r = .absent)
    (hwords : seen.Wordable e.surface ⟨v, .raises r expected message⟩ s) :
    e.Decides id r ⟨v, .raises r expected message⟩ (w.withOutside s) seen negate
      ((e.afterBlock negate ⟨v, .raises r expected message⟩ r expected message result >>= e.enforce (some id)) w) := by
  have hjudged : e.afterBlock negate ⟨v, .raises r expected message⟩ r expected message result w = _ :=
    afterBlock_of_sees hs hr
  cases seen with
  | nothing =>
    have hnone : (w.withOutside s).recorded r = .absent := hempty rfl
    rw [Action.bind_done hjudged, hnone]
    cases negate with
    | true =>
      rw [e.enforce_valid rfl rfl]
      exact .quiet
    | false =>
      obtain ⟨wanted, s₁, ht⟩ := hwords
      have hsays : e.wording ⟨false, .absent, none, false, ⟨v, .raises r expected message⟩⟩
          ((w.withOutside s).recorded r) s = _ := hnone ▸ raisesWording_of_silence ht
      rw [e.enforce_invalid rfl rfl ((message_done_iff rfl).mpr hsays)]
      exact .silent ht
  | expected error agrees =>
    obtain ⟨herror, wanted, s₁, shown, s₂, ht, hshown⟩ := hwords
    have hnoted : ((w.withOutside s).meets r error).recorded r = error := World.recorded_meets error hr
    rw [Action.bind_done hjudged]
    by_cases hd : negate = agrees
    · subst hd
      have hsays : e.wording ⟨false, error, none, negate, ⟨v, .raises r expected message⟩⟩
          (((w.withOutside s).meets r error).recorded r) s = _ := hnoted.symm ▸ raisesWording_of_error ht hshown herror
      rw [bne_self_eq_false, e.enforce_invalid rfl rfl ((message_done_iff rfl).mpr hsays)]
      exact .unmet ht hshown
    · obtain rfl : negate = !agrees := by
        cases agrees <;> cases negate <;> simp_all
      have hvalid : (agrees != !agrees) = true := by cases agrees <;> rfl
      rw [hvalid, e.enforce_valid rfl rfl]
      exact .met
  | other error =>
    obtain ⟨text, s₁, ht⟩ := hwords
    rw [Action.bind_done hjudged, e.enforce_fault rfl ht]
    exact .other ht
  | passing err =>
    rw [Action.bind_raised hjudged]
    exact .passing

end Engine

/-- Makes a matcher of raised errors and expects of the block what it tells. -/
def Program.raising (id : Nat) (negate : Bool) (f v expected message : Value U) : Program U S (Verdict (Value U)) :=
  .bind (.ask .recorder) fun r => .expecting id ⟨.block f, negate, ⟨v, .raises r expected message⟩⟩

namespace Host

variable (h : Host U S) {n id : Nat} {negate : Bool} {f v expected message : Value U} {w : World U S}

theorem raising_apply (hw : w.Standard id) (hf : h.toSurface.isCallable f w.outside = true) :
    h.exec (n + 1) (Program.raising id negate f v expected message) w =
      (Action.attempt ((h.engine n).call f []) >>= fun result =>
        (h.engine n).afterBlock negate ⟨v, .raises w.recorders.size expected message⟩ w.recorders.size expected message
          result >>= (h.engine n).enforce (some id)) w.recording := by
  have hstandard : w.recording.Standard id := hw.carried (.of_scopes rfl)
  have hcallable : (h.engine n).surface.isCallable f w.recording.outside = true := hf
  refine (h.expecting_apply n hstandard _).trans ?_
  rw [Engine.require_standard, Action.bind_apply, Engine.evaluate_block_raises hcallable, World.meets_recording,
    ← Action.bind_apply, bind_assoc]

end Host

/-- An expectation of raised errors on a block, with a new matcher. The block is called once: what follows knows no
more of it than how it has ended. If the questions of the matcher are answered and what is to be told can be put into
words, and the recorder is still empty if the block raises nothing, then the expectation ends by what the matcher sees
of the ending, in both directions. -/
theorem Host.raised_errors_told (h : Host U S) (n id : Nat) (v expected message : Value U) :
    (∀ negate, ∃ k : Nat → Except (Exn (Value U)) (Value U) → Run U S (Verdict (Value U)), ∀ f w, w.Standard id →
      h.toSurface.isCallable f w.outside = true →
      h.exec (n + 1) (Program.raising id negate f v expected message) w =
        (Action.attempt ((h.engine n).call f []) >>= k w.recorders.size) w.recording) ∧
    ∀ f w result called, w.Standard id → h.toSurface.isCallable f w.outside = true →
      Action.attempt ((h.engine n).call f []) w.recording = (.done result, called) →
      (∀ u, result = .ok u → called.recorded w.recorders.size = .absent) →
      (∀ error, result = .error (.thrown error) → (h.toSurface.kind error called.outside).isOwn = false →
        (h.engine n).Answers expected message error called.outside) →
      (∀ seen s, (h.engine n).Sees expected message called.outside result seen s →
        seen.Wordable h.toSurface ⟨v, .raises w.recorders.size expected message⟩ s) →
      ∃ seen s, (h.engine n).Sees expected message called.outside result seen s ∧ ∀ negate,
        (h.engine n).Decides id w.recorders.size ⟨v, .raises w.recorders.size expected message⟩ (called.withOutside s)
          seen negate (h.exec (n + 1) (Program.raising id negate f v expected message) w) := by
  refine ⟨fun negate => ⟨fun r result => (h.engine n).afterBlock negate ⟨v, .raises r expected message⟩ r expected
    message result >>= (h.engine n).enforce (some id), fun f w hw hf => h.raising_apply hw hf⟩, ?_⟩
  intro f w result called hw hf hcall hempty hanswers hwords
  obtain ⟨seen, s, hs⟩ := (h.engine n).sees_of_answers hanswers
  refine ⟨seen, s, hs, fun negate => ?_⟩
  rw [h.raising_apply hw hf, Action.bind_done hcall]
  have hr : w.recorders.size < called.recorders.size := h.lt_recorders_of_call (by simp [World.recording]) hcall
  refine Engine.decides_of_sees hs hr ?_ (hwords seen s hs)
  rintro rfl
  cases hs
  exact hempty _ rfl

/-- Numbers as in `Host.numbers`, all of which can be shown, and any class of errors takes them in. -/
def Host.errors (code : NumberedCode) : Host Nat Unit :=
  { Host.numbers (fun _ => false) code with nameOf? := fun _ _ => some (.text "Error") }

/-- A matcher of such errors with the recorder of that number. -/
def Matcher.ofErrors (r : Nat) : Matcher (Value Nat) := ⟨.absent, .raises r .absent .absent⟩

/-- The block under 1 raises the number 9. The block under 2 expects that block to raise an error, with the matcher whose
recorder is the first, and gives a number. So does any other block. -/
def raisingCode : NumberedCode
  | 1, _ => .raise (.thrown (.user 9))
  | 2, _ => .bind (.ask (.require ⟨.block (.user 1), .standard, none⟩ false (.ofErrors 0))) fun _ => .pure (.user 5)
  | _, _ => .pure (.user 5)

/-- The error of the block decides in both directions, and is told where it was not expected. -/
theorem raised_errors_told_numbers :
    ∃ seen, ((Host.errors raisingCode).engine 1).Sees .absent .absent () (.error (.thrown (.user 9))) seen () ∧
      (∀ negate, ((Host.errors raisingCode).engine 1).Decides 0 0 (.ofErrors 0) begunWorld.recording seen negate
        ((Host.errors raisingCode).exec 2 (Program.raising 0 negate (.user 1) .absent .absent .absent) begunWorld)) ∧
      ∃ w', (Host.errors raisingCode).exec 2 (Program.raising 0 true (.user 1) .absent .absent .absent) begunWorld =
        (.raised (.failure (.text "expected block not to raise Error but it raised 9")), w') := by
  obtain ⟨-, htold⟩ := (Host.errors raisingCode).raised_errors_told 1 0 .absent .absent .absent
  have hanswers (error : Value Nat) : ((Host.errors raisingCode).engine 1).Answers .absent .absent error () :=
    ⟨true, (), rfl, fun _ => ⟨true, (), rfl⟩⟩
  have hwords (seen : Seen (Value Nat)) (s : Unit) (hs : ((Host.errors raisingCode).engine 1).Sees .absent .absent ()
      (.error (.thrown (.user 9))) seen s) : seen.Wordable (Host.errors raisingCode).toSurface (.ofErrors 0) s := by
    cases hs with
    | expected => exact ⟨rfl, _, _, _, _, rfl, rfl⟩
    | other => exact ⟨_, _, rfl⟩
    | _ => trivial
  obtain ⟨seen, s, hs, hdecides⟩ := htold (.user 1) begunWorld _ begunWorld.recording ⟨_, rfl, rfl⟩ rfl rfl nofun
    (fun error _ _ => hanswers error) hwords
  exact ⟨seen, hs, hdecides, _, rfl⟩

/-! ## A matcher that has been used before -/

namespace Engine

/-- Two judgements have come to the same: what was found is the same, and so is the text that tells it, or they have
raised the same error. -/
inductive Concur (e : Engine U S) (x y : Ending (Exn (Value U)) (Verdict (Value U)) × World U S) : Prop
  | verdict {v v' : Verdict (Value U)} (hx : x.1 = .done v) (hy : y.1 = .done v') (valid : v'.valid = v.valid)
    (actual : v'.actual = v.actual) (fault : v'.fault = v.fault) (negate : v'.negate = v.negate)
    (words : ∀ t s, e.message v x.2 = (.done t, x.2.withOutside s) ↔ e.message v' y.2 = (.done t, y.2.withOutside s))
  | error {err : Exn (Value U)} (hx : x.1 = .raised err) (hy : y.1 = .raised err)

variable {e : Engine U S} {expected message : Value U} {r r' : Nat} {w w' : World U S} {seen : Seen (Value U)}
  {m m' : Matcher (Value U)} {negate : Bool}

/-- Verdicts that differ in the numbers of the recorders alone are told in the same words if these hold the same. -/
theorem message_done_congr {u u' actual : Value U} {valid : Bool} {fault : Option (Value U)}
    (ho : w'.outside = w.outside) (he : fault = none → w'.recorded r' = w.recorded r) (t : Value U) (s : S) :
    e.message ⟨valid, actual, fault, negate, ⟨u, .raises r expected message⟩⟩ w = (.done t, w.withOutside s) ↔
      e.message ⟨valid, actual, fault, negate, ⟨u', .raises r' expected message⟩⟩ w' = (.done t, w'.withOutside s) := by
  have hwords : e.wording ⟨valid, actual, fault, negate, ⟨u', .raises r' expected message⟩⟩ (w'.recorded r') =
      e.wording ⟨valid, actual, fault, negate, ⟨u, .raises r expected message⟩⟩ (w.recorded r) := by
    cases fault with
    | some error => rfl
    | none =>
      rw [he rfl]
      rfl
  rw [message_eq_step rfl, message_eq_step rfl, e.step_done_iff, e.step_done_iff, hwords, ho]

/-- Two matchers that have seen the same come to the same, if their recorders hold the same where that is nothing. -/
theorem concur_of_seen {u u' : Value U} (hr : r < w.recorders.size) (hr' : r' < w'.recorders.size)
    (ho : w'.outside = w.outside) (he : seen = .nothing → w'.recorded r' = w.recorded r) :
    e.Concur (seen.judged negate ⟨u, .raises r expected message⟩ r w)
      (seen.judged negate ⟨u', .raises r' expected message⟩ r' w') := by
  cases seen with
  | nothing =>
    refine .verdict rfl rfl rfl (he rfl) rfl rfl ?_
    rw [he rfl]
    exact message_done_congr ho fun _ => he rfl
  | expected error agrees =>
    have hnoted : (w.meets r error).recorded r = error := World.recorded_meets error hr
    have hnoted' : (w'.meets r' error).recorded r' = error := World.recorded_meets error hr'
    exact .verdict rfl rfl rfl rfl rfl rfl (message_done_congr ho fun _ => hnoted'.trans hnoted.symm)
  | other error => exact .verdict rfl rfl rfl rfl rfl rfl (message_done_congr ho nofun)
  | passing err => exact .error rfl rfl

end Engine

/-- A matcher of raised errors that has been used before, in a world in which a new one has just been made. What the
recorder of the first holds from earlier uses is never looked at. If a block ends in the same way whichever of the two
is emptied for it, and does not use the new one, the two come to the same and tell it in the same words, unless the
block has raised nothing and the recorder holds what another use within the block has left there. What has been observed
is an error only if the block has raised it, or such a use has left it. -/
theorem Host.reused_agrees_iff (h : Host U S) {n r : Nat} {f u expected message : Value U} {w : World U S}
    (hf : h.toSurface.isCallable f w.outside = true) (hr : r < w.recorders.size) (negate : Bool) :
    (∀ found, (h.engine n).evaluate (.block f) negate ⟨u, .raises r expected message⟩ (w.recording.meets r found) =
      (h.engine n).evaluate (.block f) negate ⟨u, .raises r expected message⟩ w.recording) ∧
    ∀ u' result called fresh seen s,
      Action.attempt ((h.engine n).call f []) (w.recording.meets r .absent) = (.done result, called) →
      Action.attempt ((h.engine n).call f []) w.recording = (.done result, fresh) → fresh.outside = called.outside →
      (∀ v, result = .ok v → fresh.recorded w.recorders.size = .absent) →
      (h.engine n).Sees expected message called.outside result seen s →
      ((h.engine n).Concur
          ((h.engine n).evaluate (.block f) negate ⟨u, .raises r expected message⟩ w.recording)
          ((h.engine n).evaluate (.block f) negate ⟨u', .raises w.recorders.size expected message⟩ w.recording) ↔
        ∀ v, result = .ok v → called.recorded r = .absent) ∧
      ∀ x w', (h.engine n).evaluate (.block f) negate ⟨u, .raises r expected message⟩ w.recording = (.done x, w') →
        x.actual = .absent ∨ result = .error (.thrown x.actual) ∨
        (∃ v, result = .ok v) ∧ x.actual = called.recorded r := by
  have hf' : (h.engine n).surface.isCallable f w.recording.outside = true := hf
  refine ⟨fun found => Engine.evaluate_meets hf' found, ?_⟩
  intro u' result called fresh seen s hc hfresh ho hunused hs
  have hrecording : w.recording.recorders.size = w.recorders.size + 1 := Array.size_push _
  have hcalled : r < called.recorders.size := by
    refine h.lt_recorders_of_call ?_ hc
    simp only [World.meets, Array.size_setIfInBounds]
    omega
  have hlast : w.recorders.size < fresh.recorders.size := h.lt_recorders_of_call (by omega) hfresh
  have hused : (h.engine n).evaluate (.block f) negate ⟨u, .raises r expected message⟩ w.recording =
      seen.judged negate ⟨u, .raises r expected message⟩ r (called.withOutside s) :=
    Engine.evaluate_of_sees hf' hc hs hcalled
  have hnew : (h.engine n).evaluate (.block f) negate ⟨u', .raises w.recorders.size expected message⟩ w.recording =
      seen.judged negate ⟨u', .raises w.recorders.size expected message⟩ w.recorders.size (fresh.withOutside s) :=
    Engine.evaluate_of_sees hf' (World.meets_recording.symm ▸ hfresh) (ho ▸ hs) hlast
  rw [hused, hnew]
  refine ⟨⟨?_, ?_⟩, ?_⟩
  · rintro hconcur v rfl
    cases hs
    obtain ⟨hx, hy, -, hactual, -⟩ | ⟨hx, -⟩ := hconcur
    · cases hx
      cases hy
      exact hactual.symm.trans (hunused v rfl)
    · cases hx
  · intro hempty
    refine Engine.concur_of_seen hcalled hlast rfl ?_
    rintro rfl
    cases hs
    exact (hunused _ rfl).trans (hempty _ rfl).symm
  · intro x w' hx
    cases hs with
    | nothing =>
      cases hx
      exact .inr (.inr ⟨⟨_, rfl⟩, rfl⟩)
    | expected =>
      cases hx
      exact .inr (.inl rfl)
    | other =>
      cases hx
      exact .inl rfl
    | _ => cases hx

/-- The recorder still holds the number 9 of an earlier use, and the block raises nothing. -/
theorem reused_agrees_iff_numbers :
    let w := begunWorld.recording.meets 0 (.user 9)
    ((Host.errors raisingCode).engine 1).Concur
      (((Host.errors raisingCode).engine 1).evaluate (.block (.user 3)) false (.ofErrors 0) w.recording)
      (((Host.errors raisingCode).engine 1).evaluate (.block (.user 3)) false (.ofErrors 1) w.recording) := by
  obtain ⟨-, hiff⟩ := (Host.errors raisingCode).reused_agrees_iff (n := 1) (r := 0) (f := .user 3) (u := .absent)
    (w := begunWorld.recording.meets 0 (.user 9)) rfl (by decide) false
  obtain ⟨hconcur, -⟩ := hiff .absent (.ok (.user 5)) _ _ .nothing () rfl rfl rfl (fun _ _ => rfl) .nothing
  exact hconcur.mpr fun _ _ => rfl

/-- The block raises nothing. Judged with the matcher that it uses itself it is told to have raised the number 9, which
another block has raised; with a new matcher it is told to have raised nothing. -/
theorem nested_use_observed :
    let e := (Host.errors raisingCode).engine 3
    let w := begunWorld.recording.recording
    (∃ w', e.call (.user 2) [] w = (.done (.user 5), w')) ∧
    (∃ v w₁ w₂, e.evaluate (.block (.user 2)) false (.ofErrors 0) w = (.done v, w₁) ∧ v.actual = .user 9 ∧
      e.message v w₁ = (.done (.text "expected block to raise Error but it raised 9"), w₂)) ∧
    ∃ v w₁ w₂, e.evaluate (.block (.user 2)) false (.ofErrors 1) w = (.done v, w₁) ∧ v.actual = .absent ∧
      e.message v w₁ = (.done (.text "expected block to raise Error but nothing was raised"), w₂) :=
  ⟨⟨_, rfl⟩, ⟨_, _, _, rfl, rfl, rfl⟩, _, _, _, rfl, rfl, rfl⟩

end Exemplar

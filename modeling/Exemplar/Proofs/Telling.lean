import Exemplar.Proofs.Bodies
import Exemplar.Proofs.Leaving
import Exemplar.Proofs.Targets

/-!
# Exemplar.Proofs.Telling — when the line of a passed example is worded

An expectation that is not met is put into words at once. One that is met is recorded as it stands, and if it is the
last one it is put into words when the body has ended. In between the specification may change what the words depend
on: the values that were compared, or what a matcher says of itself. The line then tells something else than what was
judged.

* `Engine.Words`: how a verdict is worded in a world.
* `Engine.require_done`: what an expectation that is met leaves behind.
* `Engine.Words.of_outside`: whose words depend on the specification's own state alone.
* `Host.success_worded_late`: the diagnostic of a passed example is the wording at the end of the body, and so the
  wording at the time of the call where nothing has been changed since.
* `Script.success_line_drifts`: where something has been changed they differ.
-/

namespace Exemplar

variable {U S : Type}

/-! ## Wordings -/

namespace Engine

variable (e : Engine U S)

/-- In that world the message of the verdict is this text. -/
def Words (v : Verdict (Value U)) (w : World U S) (t : String) : Prop := ∃ w', e.message v w = (.done (.text t), w')

section
variable {v : Verdict (Value U)} {w w' : World U S} {t : String}

/-- The message of an expectation that was met is its summary. -/
theorem words_iff (hv : v.valid = true) (hf : v.fault = none) :
    e.Words v w t ↔ ∃ w', e.summary v w = (.done t, w') := by
  have hmessage : e.message v = (e.summary v >>= fun text => pure (.text text)) := by
    unfold message
    rw [hf, hv]
    rfl
  constructor
  · rintro ⟨w', h⟩
    rw [hmessage] at h
    obtain ⟨text, w₁, hs, hend⟩ := Action.bind_done_iff.mp h
    cases hend
    exact ⟨_, hs⟩
  · rintro ⟨w', h⟩
    refine ⟨w', ?_⟩
    rw [hmessage, Action.bind_done h]
    rfl

/-- The summary of an expectation with a matcher of the library's own, as a computation of the specification's own. -/
def summaryStep (sf : Surface U S) (v : Verdict (Value U)) : Step U S String := do
  let actual ← sf.repr v.actual
  let wanted ← sf.matcherText v.matcher
  pure ("expected " ++ actual ++ (if v.negate then " not to " else " to ") ++ wanted)

theorem summary_eq_step (hm : v.matcher.criterion ≠ .own) : e.summary v = e.step (summaryStep e.surface v) := by
  have hdescribe : e.describeMatcher v.matcher = e.step (e.surface.matcherText v.matcher) := by
    unfold describeMatcher
    cases hc : v.matcher.criterion with
    | own => exact absurd hc hm
    | _ => rfl
  unfold summary summaryStep
  rw [hdescribe]
  simp only [step_bind, step_pure]

/-- A matcher of the library's own finds the same words wherever the specification's own state is the same. -/
theorem Words.of_outside (hv : v.valid = true) (hf : v.fault = none) (hm : v.matcher.criterion ≠ .own)
    (ho : w'.outside = w.outside) (h : e.Words v w t) : e.Words v w' t := by
  rw [e.words_iff hv hf, e.summary_eq_step hm] at h ⊢
  obtain ⟨w₁, h⟩ := h
  obtain ⟨s, hs, -⟩ := e.step_done h
  exact ⟨w'.withOutside s, e.step_of_done (ho ▸ hs)⟩

end

/-! ## Expectations that are met -/

section
variable {target : Target (Value U)} {negate : Bool} {m : Matcher (Value U)} {v : Verdict (Value U)}
  {w w' : World U S} {id : Nat} {s : Scope (Value U)}

theorem require_eq : e.require target negate m =
    e.evaluateBy target.evaluator target.source negate m >>= e.enforce target.scope := rfl

/-- An expectation returns only if it is met without a fault, and then it is the last success on its scope. -/
theorem require_done (ht : target.scope = some id) (h : e.require target negate m w = (.done v, w')) :
    v.valid = true ∧ v.fault = none ∧ ∃ judged : World U S, w' = judged.succeed id v := by
  rw [require_eq, ht] at h
  obtain ⟨verdict, judged, -, hend⟩ := Action.bind_done_iff.mp h
  obtain ⟨hv, hf, rfl, rfl⟩ := e.enforce_done hend
  exact ⟨hv, hf, judged, rfl⟩

theorem getLast?_succeed (hs : (w.succeed id v).scope? id = some s) : s.successes.getLast? = some v := by
  rw [World.succeed, World.scope?_updateScope, if_pos rfl] at hs
  obtain ⟨s₀, -, rfl⟩ := Option.map_eq_some_iff.mp hs
  exact List.getLast?_concat

/-- Where there is a last success, the outcome is made of its summary. -/
theorem succeed_apply {display : Value U} (hs : w.scope? id = some s) (hlast : s.successes.getLast? = some v) :
    e.succeed id display w = (e.summary v >>= fun text => e.finish .passed display (.text text)) w := by
  rw [succeed, Action.bind_apply, Run.scope_apply, hs]
  dsimp only
  rw [hlast]

/-- The outcome is that of a passed example, and its diagnostic the summary of the last success. -/
theorem succeed_iff {display : Value U} {d t : String} (hd : e.surface.IsText display d) (hs : w.scope? id = some s)
    (hlast : s.successes.getLast? = some v) :
    (∃ w', e.succeed id display w = (.done ⟨.passed, d, t⟩, w')) ↔ ∃ w', e.summary v w = (.done t, w') := by
  rw [e.succeed_apply hs hlast]
  constructor
  · rintro ⟨w', h⟩
    obtain ⟨text, w₁, hsummary, hfinish⟩ := Action.bind_done_iff.mp h
    obtain ⟨-, rfl⟩ : Tag.passed = .passed ∧ t = text := e.finish_done hfinish
    exact ⟨w₁, hsummary⟩
  · rintro ⟨w₁, hsummary⟩
    obtain ⟨w', hfinish⟩ := e.finish_of_isText hd (e.surface.isText_text t) .passed w₁
    exact ⟨w', (Action.bind_done hsummary).trans hfinish⟩

end
end Engine

/-! ## The line of a passed example -/

section
variable {ev : Evaluator (Value U)} {x : Example (Value U)} {body display a : Value U} {id n k : Nat}
  {w begun before back ended : World U S} {target : Target (Value U)} {negate : Bool} {m : Matcher (Value U)}
  {v : Verdict (Value U)} {s : Scope (Value U)} {d : String}

/-- The body of an example has ended well, and the last expectation that was met on its scope is one that came back in
the world `back`. The example passes with a diagnostic just if that is how the verdict is worded at the end of the body.
So the diagnostic is how the verdict was worded when the call came back, just if it is still worded like that; and so
it is if the matcher is one of the library's own and the specification's own state is the same again. -/
theorem Host.success_worded_late (h : Host U S) (hb : (h.engine n).Begun ev x w body display id begun)
    (hd : h.toSurface.IsText display d) (hrun : (h.engine n).callWith body [.scope id] begun = (.done a, ended))
    (ht : target.scope = some id) (hcall : (h.engine k).require target negate m before = (.done v, back))
    (hback : back.scope? id = some s) (hsince : ended.successes id = back.successes id) :
    v.valid = true ∧ v.fault = none ∧
    (∀ t, (∃ w', (h.engine n).runExample ev x w = (.done ⟨.passed, d, t⟩, w')) ↔ (h.engine n).Words v ended t) ∧
    (∀ o w', (h.engine n).runExample ev x w = (.done o, w') → o.tag = .passed ∧ (h.engine n).Words v ended o.diagnostic) ∧
    ∀ t, (h.engine n).Words v back t →
      ((∃ w', (h.engine n).runExample ev x w = (.done ⟨.passed, d, t⟩, w')) ↔ (h.engine n).Words v ended t) ∧
      (v.matcher.criterion ≠ .own → ended.outside = back.outside →
        ∃ w', (h.engine n).runExample ev x w = (.done ⟨.passed, d, t⟩, w')) := by
  obtain ⟨hv, hf, judged, rfl⟩ := (h.engine k).require_done ht hcall
  have hlast : s.successes.getLast? = some v := Engine.getLast?_succeed hback
  obtain ⟨s', hs', hlast'⟩ : ∃ s', ended.scope? id = some s' ∧ s'.successes.getLast? = some v := by
    have hsuccesses : ended.successes id = s.successes := by rw [hsince, World.successes, hback]; rfl
    cases hscope : ended.scope? id with
    | some s' =>
      rw [World.successes, hscope] at hsuccesses
      exact ⟨s', rfl, (congrArg List.getLast? hsuccesses).trans hlast⟩
    | none =>
      -- without a scope there would be no success at all
      rw [World.successes, hscope] at hsuccesses
      rw [← hsuccesses] at hlast
      cases hlast
  have hexample : (h.engine n).runExample ev x w = (h.engine n).succeed id display ended := by
    rw [(h.engine n).runExample_of_begun hb, Action.bind_done (Action.attempt_of_done hrun)]
  have hiff (t : String) : (∃ w', (h.engine n).runExample ev x w = (.done ⟨.passed, d, t⟩, w')) ↔
      (h.engine n).Words v ended t := by
    rw [hexample, (h.engine n).succeed_iff hd hs' hlast', (h.engine n).words_iff hv hf]
  refine ⟨hv, hf, hiff, fun o w' ho => ?_, fun t ht => ⟨hiff t, fun hm hsame => (hiff t).mpr ?_⟩⟩
  · rw [hexample, (h.engine n).succeed_apply hs' hlast'] at ho
    obtain ⟨text, w₁, hsummary, hfinish⟩ := Action.bind_done_iff.mp ho
    obtain ⟨htag, hdiagnostic⟩ := (h.engine n).finish_done hfinish
    exact ⟨htag, ((h.engine n).words_iff hv hf).mpr ⟨w₁, hdiagnostic ▸ hsummary⟩⟩
  · exact Engine.Words.of_outside _ hv hf hm hsame ht

/-- What was expected is still worded as it was, so the line tells what was judged. -/
theorem success_worded_late_numbers : ∃ w', ((Host.numbers (fun _ => false) shyCode).engine 2).runExample .standard
    (.numbered 0) (singleWorld .absent) = (.done ⟨.passed, "first", "expected 9 to be 9"⟩, w') := by
  have hbegun : ((Host.numbers (fun _ => false) shyCode).engine 2).Begun .standard (.numbered 0) (singleWorld .absent)
      (.user 0) (.text "first") 0 begunWorld := ⟨rfl, _, rfl, rfl, rfl⟩
  have hcall : ∃ back, ((Host.numbers (fun _ => false) shyCode).engine 0).require
      ⟨.value (.user 9), .standard, some 0⟩ false ⟨.absent, .same (.user 9)⟩ begunWorld =
        (.done ⟨true, .user 9, none, false, ⟨.absent, .same (.user 9)⟩⟩, back) ∧
      ((Host.numbers (fun _ => false) shyCode).engine 2).callWith (.user 0) [.scope 0] begunWorld =
        (.done .absent, back) := ⟨_, rfl, rfl⟩
  obtain ⟨back, hcall, hrun⟩ := hcall
  obtain ⟨-, -, -, -, hlaw⟩ := (Host.numbers (fun _ => false) shyCode).success_worded_late hbegun
    (Surface.isText_text _ _) hrun rfl hcall (by cases hcall; rfl) rfl
  exact (hlaw "expected 9 to be 9" ⟨_, rfl⟩).2 nofun rfl

end

/-! ## A line that tells something else -/

namespace Script

/-- Expects a list to be what it is, keeps the message, appends to the list and returns the message. -/
def driftBody : Expr := .seq [.assign "l" (.list [.int 1]),
  .assign "t" (.apply "to" false (.expect (.var "l")) (.matcher .eq [.list [.int 1]])),
  .append (.var "l") (.int 2), .var "t"]

/-- A world with a function of that body. -/
def driftWorld : World Atom Store :=
  World.initial { Store.empty with heap := Store.empty.heap.push (.fn [neededParam "s"] driftBody none) } false

/-- An example with that function for its body. -/
def driftExample : Example V := ⟨.text "e", 0, 0, some (.user (.ref 1)), .absent⟩

/-- The outcome of a run. -/
def outcome? : Ending (Exn V) Outcome → Option Outcome
  | .done o => some o
  | _ => none

/-- The text that a function returns. -/
def returnedText? : Ending (Exn V) V → Option String
  | .done (.text t) => some t
  | _ => none

/-- The message of the only expectation, as it was when the call returned, is not what the line of the example tells. -/
theorem success_line_drifts :
    returnedText? (((host knownClasses).engine 5).callWith (.user (.ref 1)) [.scope 0]
        (driftWorld.opened driftExample .standard)).1 = some "expected [1] to eq [1]" ∧
      outcome? (((host knownClasses).engine 5).runExample .standard driftExample driftWorld).1 =
        some ⟨.passed, "e", "expected [1, 2] to eq [1]"⟩ := by
  constructor <;> decide +kernel

end Script

end Exemplar

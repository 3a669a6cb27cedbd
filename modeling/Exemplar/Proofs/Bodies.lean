import Exemplar.Proofs.Passage

/-!
# Exemplar.Proofs.Bodies — expectations in the body of an example

The body of an example is a program. What it expects it expects in two steps: it makes a target, which knows the scope
of the example and who judges there, and then applies a matcher to it. Here such bodies have names, and so have the
parts of an example's run around the body: what comes before it is called, and what is made of the way it has ended.

* `Engine.runExample_eq`: an example is run by calling its body between these parts.
* `Scope.Carries`, `ledgerFrame`: whatever runs, a scope keeps its judge and the successes that it has recorded.
* `Host.expecting_apply`: in an example with the evaluator of the library an expectation is judged by that.
-/

namespace Exemplar

variable {U S α : Type}

/-! ## Expectations as programs -/

/-- An expectation that is ready to be applied: what it is about, its direction and its matcher. -/
structure Expectation (V : Type) where
  source : Source V
  negate : Bool
  matcher : Matcher V

/-- The verdict on an expectation. -/
def Expectation.verdict {V : Type} (x : Expectation V) (valid : Bool) (actual : V) (fault : Option V) : Verdict V :=
  ⟨valid, actual, fault, x.negate, x.matcher⟩

/-- Makes the target in the scope with that number and applies the matcher to it. -/
def Program.expecting (id : Nat) (x : Expectation (Value U)) : Program U S (Verdict (Value U)) :=
  .bind (.ask (.observe fun w => w.target id x.source)) fun t => .ask (.require t x.negate x.matcher)

/-- A call of the value for the scope runs that program. -/
def Host.RunsAs (h : Host U S) (n : Nat) (body : Value U) (id : Nat) (p : Program U S (Value U)) : Prop :=
  (h.engine n).callWith body [.scope id] = h.exec n p

theorem Host.exec_bind {β : Type} (h : Host U S) (n : Nat) (p : Program U S α) (k : α → Program U S β) :
    h.exec (n + 1) (p.bind k) = h.exec (n + 1) p >>= fun a => h.exec (n + 1) (k a) := rfl

/-! ## Around the body -/

namespace Engine

variable (e : Engine U S) (ev : Evaluator (Value U)) (x : Example (Value U)) {body : Value U}

/-- What comes before the body: the name and the scope of the example. -/
def beginExample : Run U S (Value U × Nat) := do
  let w ← Action.get
  let display ← e.step (e.surface.displayName w.forest x)
  let scope ← openScope x ev
  e.noticeOf display .runningExample
  pure (display, scope)

/-- The outcome of an example by the way its body ends. -/
def settle (display : Value U) (scope : Nat) (run : Run U S α) : Run U S Outcome := do
  match ← Action.attempt run with
  | .error error => e.conclude display error
  | .ok _ => e.succeed scope display

/-- Runs an example as if its body were this one. -/
def runCalling (body : Value U) : Run U S Outcome := do
  let (display, scope) ← e.beginExample ev x
  e.settle display scope (e.callWith body [.scope scope])

theorem runExample_eq (hbody : x.body = some body) : e.runExample ev x = e.runCalling ev x body := by
  funext w
  rw [runExample, runCalling, beginExample, Action.get_bind_apply, bind_assoc, Action.get_bind_apply]
  simp only [hbody, bind_assoc, pure_bind]
  refine congrArg (fun k => (e.step (e.surface.displayName w.forest x) >>= k) w) (funext fun display => ?_)
  refine congrArg (openScope x ev >>= ·) (funext fun scope => ?_)
  refine congrArg (e.noticeOf display .runningExample >>= ·) (funext fun _ => ?_)
  refine congrArg (Action.attempt (e.callWith body [.scope scope]) >>= ·) (funext fun r => ?_)
  cases r <;> rfl

section
variable {display : Value U} {scope : Nat} {run : Run U S α} {w w' : World U S}

/-- Nothing becomes of a scope when an outcome is told. -/
theorem finish_scopes {tag : Tag} {diagnostic : Value U} {o : Outcome}
    (h : e.finish tag display diagnostic w = (.done o, w')) : w'.scopes = w.scopes := by
  obtain ⟨⟨⟩, w₁, hnotice, hmake⟩ := Action.bind_done_iff.mp h
  have hend : w₁ = w' := by
    rw [makeOutcome, Action.get_bind_apply] at hmake
    cases hd : e.surface.recordText? display w₁.outside with
    | none =>
      rw [hd] at hmake
      cases hmake
    | some d =>
      cases ht : e.surface.recordText? diagnostic w₁.outside with
      | none =>
        rw [hd, ht] at hmake
        cases hmake
      | some t =>
        rw [hd, ht] at hmake
        exact congrArg Prod.snd hmake
  subst hend
  obtain ⟨s, rfl | ⟨m, rfl⟩⟩ := e.notice_done hnotice
  · rfl
  · rfl

theorem settle_of_done {a : α} (h : run w = (.done a, w')) :
    e.settle display scope run w = e.succeed scope display w' := by
  rw [settle, Action.bind_done (Action.attempt_of_done h)]

theorem settle_of_raised {err : Exn (Value U)} (h : run w = (.raised err, w')) :
    e.settle display scope run w = e.conclude display err w' := by
  rw [settle, Action.bind_done (Action.attempt_of_raised h)]

theorem settle_of_exhausted (h : run w = (.exhausted, w')) : e.settle display scope run w = (.exhausted, w') := by
  rw [settle, Action.bind_apply, Action.attempt_apply, h]

/-- Runs that end in the same way are settled in the same way. -/
theorem settle_congr {run' : Run U S α} {v : World U S} (h : run w = run' v) :
    e.settle display scope run w = e.settle display scope run' v := by
  rw [settle, settle, Action.bind_apply, Action.bind_apply, Action.attempt_apply, Action.attempt_apply, h]

variable {ev x}

/-- The example that begins has a new scope. -/
theorem beginExample_scope (h : e.beginExample ev x w = (.done (display, scope), w')) :
    w'.scope? scope = some (.fresh x ev) := by
  rw [beginExample, Action.get_bind_apply] at h
  obtain ⟨shown, w₁, -, hshown⟩ := Action.bind_done_iff.mp h
  obtain ⟨id, w₂, hopen, hopened⟩ := Action.bind_done_iff.mp hshown
  obtain ⟨⟨⟩, w₃, hnotice, hend⟩ := Action.bind_done_iff.mp hopened
  obtain ⟨rfl, rfl⟩ : w₁.scopes.size = id ∧ w₁.opened x ev = w₂ := by
    simpa [openScope, World.opened] using hopen
  obtain ⟨⟨rfl, rfl⟩, rfl⟩ : (shown = display ∧ w₁.scopes.size = scope) ∧ w₃ = w' := by
    simpa [Action.pure_apply] using hend
  have hscope : (w₁.opened x ev).scope? w₁.scopes.size = some (.fresh x ev) := by
    rw [World.scope?_opened, if_pos rfl]
  obtain ⟨s, rfl | ⟨m, rfl⟩⟩ := e.notice_done hnotice
  · exact hscope
  · exact hscope

/-- The body being a program, the example is run by running that. -/
theorem runCalling_of_runsAs {h : Host U S} {n : Nat} {p : Program U S (Value U)} {begun : World U S}
    (hb : (h.engine n).beginExample ev x w = (.done (display, scope), begun)) (hbody : h.RunsAs n body scope p) :
    (h.engine n).runCalling ev x body w = (h.engine n).settle display scope (h.exec n p) begun := by
  rw [runCalling, Action.bind_done hb]
  exact congrArg (fun run => (h.engine n).settle display scope run begun) hbody

end
end Engine

/-! ## What a scope carries along -/

/-- The later scope has the same judge, and all that was recorded. -/
structure Scope.Carries {V : Type} (s s' : Scope V) : Prop where
  evaluator : s'.evaluator = s.evaluator
  successes : s.successes <+: s'.successes

namespace World

variable {w w' w'' : World U S} {id : Nat}

/-- The successes that the scope has recorded. -/
def successes (w : World U S) (id : Nat) : List (Verdict (Value U)) := ((w.scope? id).map (·.successes)).getD []

/-- The library's own evaluator judges in the scope. -/
def Standard (w : World U S) (id : Nat) : Prop := ∃ s, w.scope? id = some s ∧ s.evaluator = .standard

/-- Every scope is carried along. -/
def Carries (w w' : World U S) : Prop := ∀ id s, w.scope? id = some s → ∃ s', w'.scope? id = some s' ∧ s.Carries s'

namespace Carries

theorem of_scopes (h : w'.scopes = w.scopes) : w.Carries w' := by
  intro id s hs
  exact ⟨s, by rw [scope?, h]; exact hs, rfl, List.prefix_rfl⟩

theorem trans (h : w.Carries w') (h' : w'.Carries w'') : w.Carries w'' := by
  intro id s hs
  obtain ⟨s', hs', hc⟩ := h id s hs
  obtain ⟨s'', hs'', hc'⟩ := h' id s' hs'
  exact ⟨s'', hs'', hc'.evaluator.trans hc.evaluator, hc.successes.trans hc'.successes⟩

theorem updateScope (w : World U S) (id : Nat) {change : Scope (Value U) → Scope (Value U)}
    (hc : ∀ s : Scope (Value U), s.Carries (change s)) : w.Carries (w.updateScope id change) := by
  intro i s hs
  rw [scope?_updateScope]
  split
  · exact ⟨change s, by rw [hs]; rfl, hc s⟩
  · exact ⟨s, hs, rfl, List.prefix_rfl⟩

theorem opened (w : World U S) (x : Example (Value U)) (ev : Evaluator (Value U)) : w.Carries (w.opened x ev) := by
  intro i s hs
  rw [scope?_opened, if_neg, hs]
  · exact ⟨s, rfl, rfl, List.prefix_rfl⟩
  · rintro rfl
    simp [scope?] at hs

theorem successes (h : w.Carries w') (hw : w.Standard id) : w.successes id <+: w'.successes id := by
  obtain ⟨s, hs, -⟩ := hw
  obtain ⟨s', hs', hc⟩ := h id s hs
  rw [World.successes, World.successes, hs, hs']
  exact hc.successes

end Carries

theorem Standard.carried (hw : w.Standard id) (h : w.Carries w') : w'.Standard id := by
  obtain ⟨s, hs, hev⟩ := hw
  obtain ⟨s', hs', hc⟩ := h id s hs
  exact ⟨s', hs', hc.evaluator.trans hev⟩

theorem Standard.succeeded (hw : w.Standard id) (v : Verdict (Value U)) : (w.succeed id v).Standard id :=
  hw.carried (.updateScope _ _ fun _ => ⟨rfl, List.prefix_append _ _⟩)

theorem Standard.target_eq (hw : w.Standard id) (source : Source (Value U)) :
    w.target id source = ⟨source, .standard, some id⟩ := by
  obtain ⟨s, hs, hev⟩ := hw
  rw [target, hs, ← hev]
  rfl

theorem Standard.successes_succeed (hw : w.Standard id) (v : Verdict (Value U)) :
    (w.succeed id v).successes id = w.successes id ++ [v] := by
  obtain ⟨s, hs, -⟩ := hw
  rw [successes, succeed, scope?_updateScope, if_pos rfl, successes, hs]
  rfl

end World

/-- What scopes carry along, as a frame. -/
def ledgerFrame : Frame U S where
  holds _ := True
  leads := World.Carries
  refl _ := .of_scopes rfl
  trans := .trans
  stays _ _ := trivial
  outside _ _ := .of_scopes rfl
  tells _ _ _ := .of_scopes rfl
  counts _ := .of_scopes rfl
  recorders _ _ _ := .of_scopes rfl
  declares _ _ := .of_scopes rfl
  succeeds w id _ _ _ := .updateScope w id fun _ => ⟨rfl, List.prefix_append _ _⟩
  opens := .opened
  computes {w id _ name} _ _ _ _ _ := by
    have henter : w.Carries (w.enter id name) := .updateScope w id fun _ => ⟨rfl, List.prefix_rfl⟩
    refine ⟨trivial, fun w' h => ?_⟩
    have hleave : w.Carries (w'.leave id) :=
      (henter.trans h).trans (.updateScope w' id fun _ => ⟨rfl, List.prefix_rfl⟩)
    exact ⟨hleave, fun v => hleave.trans (.updateScope _ id fun _ => ⟨rfl, List.prefix_rfl⟩)⟩

namespace Host

variable (h : Host U S) (n : Nat)

/-- Every program carries the scopes along. -/
theorem exec_carries (p : Program U S α) (w : World U S) : w.Carries (h.exec n p w).2 :=
  ledgerFrame.exec_keeps h n p trivial

theorem exec_standard {p : Program U S α} {w w' : World U S} {id : Nat} {r : Ending (Exn (Value U)) α}
    (hp : h.exec n p w = (r, w')) (hw : w.Standard id) : w'.Standard id := by
  have hc := h.exec_carries n p w
  rw [hp] at hc
  exact hw.carried hc

theorem ledger_engine : ledgerFrame.Alike (h.engine n) (h.engine n) := ledgerFrame.alike_engine h n

/-- Where the library's own evaluator judges, an expectation is a demand on that. -/
theorem expecting_apply {w : World U S} {id : Nat} (hw : w.Standard id) (x : Expectation (Value U)) :
    h.exec (n + 1) (Program.expecting id x) w =
      (h.engine n).require ⟨x.source, .standard, some id⟩ x.negate x.matcher w := by
  rw [← hw.target_eq]
  rfl

end Host

/-! ## Demands -/

namespace Engine

variable (e : Engine U S)

/-- What follows from a verdict on an expectation in a scope. -/
def enforce (scope : Option Nat) (v : Verdict (Value U)) : Run U S (Verdict (Value U)) :=
  match v.fault with
  | some error => do
    let text ← e.step (e.surface.describeFault error)
    Action.raise (.fault text error)
  | none =>
    if v.valid then do
      match scope with
      | some scope => Run.changeScope scope fun s => { s with successes := s.successes ++ [v] }
      | none => pure ()
      pure v
    else do
      let text ← e.message v
      Action.raise (.failure text)

/-- The verdict on what was observed and answered. -/
def verdictOn (negate : Bool) (m : Matcher (Value U)) (found : Value U × Except (Exn (Value U)) (Value U)) :
    Run U S (Verdict (Value U)) := do
  let w ← Action.get
  match found.2 with
  | .ok matched => pure ⟨e.surface.holds matched w.outside != negate, found.1, none, negate, m⟩
  | .error (.thrown error) =>
    if e.surface.kind error w.outside = .ordinary then pure ⟨false, found.1, some error, negate, m⟩
    else Action.raise (.thrown error)
  | .error other => Action.raise other

theorem evaluate_eq (source : Source (Value U)) (negate : Bool) (m : Matcher (Value U)) :
    e.evaluate source negate m = e.judge source m >>= e.verdictOn negate m := rfl

theorem require_standard (source : Source (Value U)) (scope : Option Nat) (negate : Bool) (m : Matcher (Value U)) :
    e.require ⟨source, .standard, scope⟩ negate m = e.evaluate source negate m >>= e.enforce scope := rfl

section
variable {v : Verdict (Value U)} {w w' : World U S} {id : Nat}

theorem enforce_valid (hf : v.fault = none) (hv : v.valid = true) :
    e.enforce (some id) v w = (.done v, w.succeed id v) := by
  unfold enforce
  rw [hf, hv]
  rfl

theorem enforce_invalid {scope : Option Nat} {text : Value U} (hf : v.fault = none) (hv : v.valid = false)
    (ht : e.message v w = (.done text, w')) : e.enforce scope v w = (.raised (.failure text), w') := by
  unfold enforce
  rw [hf, hv]
  exact Action.bind_done ht

/-- A fault is raised with its text. -/
theorem enforce_fault {scope : Option Nat} {error : Value U} {text : String} {s : S} (hf : v.fault = some error)
    (ht : e.surface.describeFault error w.outside = (.done text, s)) :
    e.enforce scope v w = (.raised (.fault text error), w.withOutside s) := by
  unfold enforce
  rw [hf]
  exact Action.bind_done (e.step_of_done ht)

/-- What follows from a verdict comes to an end only if that is valid and has no fault. It is the result then, and the
success of the scope, if there is one. -/
theorem enforce_done {scope : Option Nat} {v' : Verdict (Value U)} (h : e.enforce scope v w = (.done v', w')) :
    v.valid = true ∧ v.fault = none ∧ v' = v ∧ w' = scope.elim w fun id => w.succeed id v := by
  unfold enforce at h
  cases hf : v.fault with
  | some error =>
    rw [hf] at h
    obtain ⟨text, w₁, -, hraise⟩ := Action.bind_done_iff.mp h
    cases hraise
  | none =>
    rw [hf] at h
    cases hv : v.valid with
    | true =>
      rw [hv] at h
      cases scope with
      | none =>
        cases h
        exact ⟨rfl, rfl, rfl, rfl⟩
      | some id =>
        cases h
        exact ⟨rfl, rfl, rfl, rfl⟩
    | false =>
      rw [hv] at h
      obtain ⟨text, w₁, -, hraise⟩ := Action.bind_done_iff.mp h
      cases hraise

variable {source : Source (Value U)} {m : Matcher (Value U)} {negate : Bool} {actual : Value U}

/-- An ordinary error is the fault of a verdict. -/
theorem verdictOn_of_ordinary {error : Value U} (hk : e.surface.kind error w.outside = .ordinary) :
    e.verdictOn negate m (actual, .error (.thrown error)) w = (.done ⟨false, actual, some error, negate, m⟩, w) := by
  rw [verdictOn, Action.get_bind_apply]
  dsimp only
  rw [if_pos hk]
  rfl

/-- An error that is no ordinary one is no verdict. -/
theorem verdictOn_of_passing {err : Exn (Value U)} (hk : e.surface.kindOf err w.outside ≠ .ordinary) :
    e.verdictOn negate m (actual, .error err) w = (.raised err, w) := by
  cases err with
  | thrown error =>
    have hk' : e.surface.kind error w.outside ≠ .ordinary := hk
    rw [verdictOn, Action.get_bind_apply]
    dsimp only
    rw [if_neg hk']
    rfl
  | _ => rfl

/-- An answer is a verdict, by its truth and the direction. -/
theorem evaluate_of_answer {matched : Value U} (h : e.judge source m w = (.done (actual, .ok matched), w')) :
    e.evaluate source negate m w =
      (.done ⟨e.surface.holds matched w'.outside != negate, actual, none, negate, m⟩, w') :=
  Action.bind_done h

theorem evaluate_of_ordinary {error : Value U} (h : e.judge source m w = (.done (actual, .error (.thrown error)), w'))
    (hk : e.surface.kind error w'.outside = .ordinary) :
    e.evaluate source negate m w = (.done ⟨false, actual, some error, negate, m⟩, w') :=
  (Action.bind_done h).trans (e.verdictOn_of_ordinary hk)

theorem evaluate_of_passing {err : Exn (Value U)} (h : e.judge source m w = (.done (actual, .error err), w'))
    (hk : e.surface.kindOf err w'.outside ≠ .ordinary) : e.evaluate source negate m w = (.raised err, w') :=
  (Action.bind_done h).trans (e.verdictOn_of_passing hk)

end
end Engine
end Exemplar

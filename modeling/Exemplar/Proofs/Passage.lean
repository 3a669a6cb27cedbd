import Exemplar.Proofs.Halting

/-!
# Exemplar.Proofs.Passage — how an error of the library's own finds its way out

Mistakes in the declarations, failed expectations and faults are raised deep inside an example: in its body, in the
producer of a helper, in a block that is judged, in a matcher. On their way out they meet the handlers of the library
itself: the judging of an expectation, the matcher of raised errors, the restoring of the names under computation. None
of these takes such an error in, whatever sort of error a matcher was told to expect. Only a handler in the code of the
specification can.

* `Uncaught`: an error is raised at some point within an action and meets no handler but the library's own.
* `Uncaught.raised`: such an action ends with that very error.
* `evaluate_fault`, `raisesExpected_done`: what does become a fault, and what a matcher of raised errors does match.
* `Engine.conclude_of_passes`, `Engine.conclude_of_stays`: what becomes of an error with which a body ends.
* `own_error_passes`: what becomes of the example in whose body the error was raised, and of the run.
-/

namespace Exemplar

variable {U S α β : Type}

/-! ## Handlers of the library -/

namespace Engine

variable (e : Engine U S) {w w' w'' : World U S} {m : Matcher (Value U)} {f v : Value U} {err : Exn (Value U)}
  {negate : Bool}

theorem judge_value (h : e.matchActual m v w = (.raised err, w')) :
    e.judge (.value v) m w = (.done (v, .error err), w') :=
  Action.bind_done (Action.attempt_of_raised h)

theorem judge_question (h : e.wantsBlock m w = (.raised err, w')) :
    e.judge (.block f) m w = (.done (.absent, .error err), w') :=
  Action.bind_done (Action.attempt_of_raised h)

/-- A block is matched as it is, and the matcher asked what it has observed. -/
def matchBlock (m : Matcher (Value U)) (f : Value U) : Run U S (Value U × Value U) := do
  let matched ← e.matchActual m f
  let actual ← e.observed m
  pure (actual, matched)

theorem judge_block (hq : e.wantsBlock m w = (.done true, w')) (h : e.matchBlock m f w' = (.raised err, w'')) :
    e.judge (.block f) m w = (.done (.absent, .error err), w'') := by
  rw [judge, Action.bind_done (Action.attempt_of_done hq)]
  exact Action.bind_done (Action.attempt_of_raised h)

theorem judge_call (hq : e.wantsBlock m w = (.done false, w')) (h : e.call f [] w' = (.raised err, w'')) :
    e.judge (.block f) m w = (.done (.absent, .error err), w'') := by
  rw [judge, Action.bind_done (Action.attempt_of_done hq)]
  exact Action.bind_done (Action.attempt_of_raised h)

theorem judge_called {w₁ : World U S} (hq : e.wantsBlock m w = (.done false, w'))
    (hc : e.call f [] w' = (.done v, w'')) (h : e.matchActual m v w'' = (.raised err, w₁)) :
    e.judge (.block f) m w = (.done (v, .error err), w₁) := by
  rw [judge, Action.bind_done (Action.attempt_of_done hq)]
  refine (Action.bind_done (Action.attempt_of_done hc)).trans ?_
  exact Action.bind_done (Action.attempt_of_raised h)

/-- An error of the library's own is no verdict. -/
theorem evaluate_of_own {source : Source (Value U)} {actual : Value U}
    (h : e.judge source m w = (.done (actual, .error err), w'))
    (ho : (e.surface.kindOf err w'.outside).isOwn = true) : e.evaluate source negate m w = (.raised err, w') := by
  rw [evaluate, Action.bind_done h]
  show (Action.get >>= _) w' = _
  rw [Action.get_bind_apply]
  cases err with
  | thrown v =>
    have hne : e.surface.kind v w'.outside ≠ .ordinary := by
      intro hk
      simp [Surface.kindOf, hk, Kind.isOwn] at ho
    dsimp only
    rw [if_neg hne]
    rfl
  | _ => rfl

/-- An error of the library's own is no match, whatever sort of error is expected. -/
theorem raisesExpected_of_own {r : Nat} {expected message : Value U} (hb : e.surface.isCallable f w.outside = true)
    (h : e.call f [] { w with recorders := w.recorders.setIfInBounds r .absent } = (.raised err, w'))
    (ho : (e.surface.kindOf err w'.outside).isOwn = true) :
    e.raisesExpected r expected message f w = (.raised err, w') := by
  rw [raisesExpected, Action.get_bind_apply, hb]
  show (Action.attempt (e.call f []) >>= _) { w with recorders := w.recorders.setIfInBounds r .absent } = _
  rw [Action.bind_done (Action.attempt_of_raised h)]
  cases err with
  | thrown v =>
    have hk : (e.surface.kind v w'.outside).isOwn = true := ho
    show (Action.get >>= _) w' = _
    rw [Action.get_bind_apply, hk]
    rfl
  | _ => rfl

end Engine

/-! ## Points at which an error is raised -/

/-- From the world on the action comes to a point within it at which the error is raised, in the world `w₀`. The point
may lie in any of its steps, in what is done before a cleanup, or in code that a matcher or a judged block brings; it
does not lie within the reach of a handler of the specification. -/
inductive Uncaught (h : Host U S) (err : Exn (Value U)) (w₀ : World U S) : {α : Type} → Run U S α → World U S → Prop
  | here {α : Type} {x : Run U S α} {w : World U S} (hx : x w = (.raised err, w₀)) : Uncaught h err w₀ x w
  | first {α β : Type} {x : Run U S α} {k : α → Run U S β} {w : World U S} (hx : Uncaught h err w₀ x w) :
    Uncaught h err w₀ (x >>= k) w
  | next {α β : Type} {x : Run U S α} {k : α → Run U S β} {w w' : World U S} {a : α} (hx : x w = (.done a, w'))
    (hk : Uncaught h err w₀ (k a) w') : Uncaught h err w₀ (x >>= k) w
  | cleanup {α : Type} {x : Run U S α} {after : World U S → World U S} {w : World U S}
    (ha : ∀ w, (after w).outside = w.outside) (hx : Uncaught h err w₀ x w) : Uncaught h err w₀ (Action.ensure x after) w
  | judgedValue {n : Nat} {m : Matcher (Value U)} {v : Value U} {negate : Bool} {w : World U S}
    (hx : Uncaught h err w₀ ((h.engine n).matchActual m v) w) :
    Uncaught h err w₀ ((h.engine n).evaluate (.value v) negate m) w
  | matcherAsked {n : Nat} {m : Matcher (Value U)} {f : Value U} {negate : Bool} {w : World U S}
    (hx : Uncaught h err w₀ ((h.engine n).wantsBlock m) w) :
    Uncaught h err w₀ ((h.engine n).evaluate (.block f) negate m) w
  | judgedBlock {n : Nat} {m : Matcher (Value U)} {f : Value U} {negate : Bool} {w w' : World U S}
    (hq : (h.engine n).wantsBlock m w = (.done true, w')) (hx : Uncaught h err w₀ ((h.engine n).matchBlock m f) w') :
    Uncaught h err w₀ ((h.engine n).evaluate (.block f) negate m) w
  | calledBlock {n : Nat} {m : Matcher (Value U)} {f : Value U} {negate : Bool} {w w' : World U S}
    (hq : (h.engine n).wantsBlock m w = (.done false, w')) (hx : Uncaught h err w₀ ((h.engine n).call f []) w') :
    Uncaught h err w₀ ((h.engine n).evaluate (.block f) negate m) w
  | blockValue {n : Nat} {m : Matcher (Value U)} {f v : Value U} {negate : Bool} {w w' w'' : World U S}
    (hq : (h.engine n).wantsBlock m w = (.done false, w')) (hc : (h.engine n).call f [] w' = (.done v, w''))
    (hx : Uncaught h err w₀ ((h.engine n).matchActual m v) w'') :
    Uncaught h err w₀ ((h.engine n).evaluate (.block f) negate m) w
  | expectedError {n r : Nat} {expected message f : Value U} {w : World U S}
    (hb : h.toSurface.isCallable f w.outside = true)
    (hx : Uncaught h err w₀ ((h.engine n).call f []) { w with recorders := w.recorders.setIfInBounds r .absent }) :
    Uncaught h err w₀ ((h.engine n).raisesExpected r expected message f) w

namespace Uncaught

variable {h : Host U S} {err : Exn (Value U)} {w₀ w : World U S}

/-- The action ends with the error that is raised within it, if that is one of the library's own. Nothing of the
specification's own state has changed since. -/
theorem raised {x : Run U S α} (hu : Uncaught h err w₀ x w) (ho : (h.toSurface.kindOf err w₀.outside).isOwn = true) :
    ∃ w', x w = (.raised err, w') ∧ w'.outside = w₀.outside := by
  induction hu with
  | here hx => exact ⟨w₀, hx, rfl⟩
  | first _ ih =>
    obtain ⟨w', hx, hw⟩ := ih
    exact ⟨w', Action.bind_raised hx, hw⟩
  | next hx _ ih =>
    obtain ⟨w', hk, hw⟩ := ih
    exact ⟨w', (Action.bind_done hx).trans hk, hw⟩
  | @cleanup α x after w ha _ ih =>
    obtain ⟨w', hx, hw⟩ := ih
    refine ⟨after w', ?_, (ha w').trans hw⟩
    rw [Action.ensure_apply, hx]
  | @judgedValue n m v negate w _ ih =>
    obtain ⟨w', hx, hw⟩ := ih
    exact ⟨w', (h.engine n).evaluate_of_own ((h.engine n).judge_value hx) (hw ▸ ho), hw⟩
  | @matcherAsked n m f negate w _ ih =>
    obtain ⟨w', hx, hw⟩ := ih
    exact ⟨w', (h.engine n).evaluate_of_own ((h.engine n).judge_question hx) (hw ▸ ho), hw⟩
  | @judgedBlock n m f negate w w₁ hq _ ih =>
    obtain ⟨w', hx, hw⟩ := ih
    exact ⟨w', (h.engine n).evaluate_of_own ((h.engine n).judge_block hq hx) (hw ▸ ho), hw⟩
  | @calledBlock n m f negate w w₁ hq _ ih =>
    obtain ⟨w', hx, hw⟩ := ih
    exact ⟨w', (h.engine n).evaluate_of_own ((h.engine n).judge_call hq hx) (hw ▸ ho), hw⟩
  | @blockValue n m f v negate w w₁ w₂ hq hc _ ih =>
    obtain ⟨w', hx, hw⟩ := ih
    exact ⟨w', (h.engine n).evaluate_of_own ((h.engine n).judge_called hq hc hx) (hw ▸ ho), hw⟩
  | @expectedError n r expected message f w hb _ ih =>
    obtain ⟨w', hx, hw⟩ := ih
    exact ⟨w', (h.engine n).raisesExpected_of_own hb hx (hw ▸ ho), hw⟩

/-! ### How actions lie within one another

Each law says that an error raised within one sort of code is raised within the operation that runs it. -/

theorem program {n : Nat} {p : Program U S α} (hu : Uncaught h err w₀ (p.interp (h.engine n).perform) w) :
    Uncaught h err w₀ (h.exec (n + 1) p) w := hu

theorem bound {n : Nat} {p : Program U S β} {k : β → Program U S α}
    (hu : Uncaught h err w₀ (p.interp (h.engine n).perform) w) :
    Uncaught h err w₀ ((p.bind k).interp (h.engine n).perform) w := .first hu

theorem called {n : Nat} {u : U} {args : List (Value U)} (hu : Uncaught h err w₀ (h.exec n (h.call u args)) w) :
    Uncaught h err w₀ ((h.engine n).call (.user u) args) w := hu

theorem offered {n : Nat} {f : Value U} {vs : List (Value U)}
    (hu : Uncaught h err w₀ ((h.engine n).call f (h.toSurface.argumentsFor f vs w.outside)) w) :
    Uncaught h err w₀ ((h.engine n).callWith f vs) w := .next rfl hu

theorem outward {n : Nat} {c : OuterCall (Value U)} {d : Definition (Value U)} {rest : List (Definition (Value U))}
    (hc : c.outward = d :: rest)
    (hu : Uncaught h err w₀ ((h.engine n).produce ⟨w.serials, c.scope, d, rest⟩) w.counted) :
    Uncaught h err w₀ ((h.engine n).callOuter c) w := by
  unfold Engine.callOuter
  rw [hc]
  exact .next rfl hu

/-- The definition that a lookup runs lies within the lookup, before the cleanup that takes the name back. -/
theorem lookedUp {n id : Nat} {name : HelperName (Value U)} {s : Scope (Value U)} {t : S}
    {ds : List (Definition (Value U))} {d : Definition (Value U)} {rest : List (Definition (Value U))}
    (hs : w.scope? id = some s) (hk : s.kept? name = none) (hp : s.pathFrom? name = none)
    (hd : h.toSurface.definitionsFor w.forest s.owner.group name w.outside = (.done ds, t))
    (hr : ds.reverse = d :: rest)
    (hu : Uncaught h err w₀ ((h.engine n).produce ⟨w.serials, id, d, rest⟩) ((w.withOutside t).counted.enter id name)) :
    Uncaught h err w₀ ((h.engine n).lookupName id name) w := by
  have hscope : (Run.scope id : Run U S _) w = (.done s, w) := by rw [Run.scope_apply, hs]
  refine .next hscope ?_
  rw [hk, hp]
  refine .next rfl (.next ((h.engine n).step_of_done hd) ?_)
  rw [hr]
  exact .next rfl (.first (.next rfl (.cleanup (fun _ => rfl) hu)))

theorem asked {n : Nat} {r : Request U S α} (hu : Uncaught h err w₀ ((h.engine n).perform r) w) :
    Uncaught h err w₀ ((Program.ask r).interp (h.engine n).perform) w := hu

theorem outerFunction {n : Nat} {c : OuterCall (Value U)} (hu : Uncaught h err w₀ ((h.engine n).callOuter c) w) :
    Uncaught h err w₀ ((h.engine (n + 1)).call (.outer c) []) w := hu

theorem subjectFunction {n serial id : Nat} (hu : Uncaught h err w₀ ((h.engine n).lookupName id .subject) w) :
    Uncaught h err w₀ ((h.engine (n + 1)).call (.subjectOf serial id) []) w := hu

theorem required {n : Nat} {source : Source (Value U)} {scope : Option Nat} {negate : Bool} {m : Matcher (Value U)}
    (hu : Uncaught h err w₀ ((h.engine n).evaluate source negate m) w) :
    Uncaught h err w₀ ((h.engine n).require ⟨source, .standard, scope⟩ negate m) w := .first hu

theorem predicate {n : Nat} {v p label actual : Value U} (hu : Uncaught h err w₀ ((h.engine n).call p [actual]) w) :
    Uncaught h err w₀ ((h.engine n).matchActual ⟨v, .satisfies p label⟩ actual) w := .first hu

theorem customMatch {n : Nat} {v actual : Value U} (hu : Uncaught h err w₀ (h.exec n (h.matchesActual v actual)) w) :
    Uncaught h err w₀ ((h.engine n).matchActual ⟨v, .own⟩ actual) w := hu

theorem expected {n r : Nat} {v e message f : Value U}
    (hu : Uncaught h err w₀ ((h.engine n).raisesExpected r e message f) w) :
    Uncaught h err w₀ ((h.engine n).matchActual ⟨v, .raises r e message⟩ f) w := .first hu

end Uncaught

/-! ## What is taken in -/

/-- The class of the outcome by which an example ends on an error of the library's own; a mistake in the declarations
is none. -/
def Kind.tag? : Kind → Option Tag
  | .failure => some .failed
  | .fault => some .errored
  | _ => none

theorem Kind.isOwn_of_tag? {k : Kind} {tag : Tag} (hk : k.tag? = some tag) : k.isOwn = true := by
  cases k <;> first | rfl | cases hk

/-- Errors of the kind go on their way. -/
def Kind.passes : Kind → Bool
  | .authoring | .exit => true
  | _ => false

/-- The class of the outcome by which an example ends on an error that does not go on its way. -/
def Kind.outcomeTag : Kind → Tag
  | .failure => .failed
  | _ => .errored

namespace Surface

variable {sf : Surface U S}

/-- An error of the kind as the diagnostic of an outcome: an error of the library's own by its text, any other one by
its type and its text. -/
def diagnosis (sf : Surface U S) (k : Kind) (err : Exn (Value U)) : Step U S String :=
  match k, err with
  | .ownOther, .thrown v | .ordinary, .thrown v => sf.describeFault v
  | _, err => sf.errorText err

/-- The value is a text whenever it is looked at, and is put into words as that. -/
def IsText (sf : Surface U S) (v : Value U) (t : String) : Prop :=
  ∀ s, sf.text? v s = some t ∧ sf.textOf v s = (.done t, s)

theorem isText_text (sf : Surface U S) (t : String) : sf.IsText (.text t) t := fun _ => ⟨rfl, rfl⟩

theorem IsText.recordText? {v : Value U} {t : String} (h : sf.IsText v t) (s : S) : sf.recordText? v s = some t := by
  obtain ⟨ht, -⟩ := h s
  cases v with
  | text _ => exact ht
  | user u =>
    have hu : sf.ownText? u s = some t := ht
    show (sf.ownText? u s).orElse _ = some t
    rw [hu]
    rfl
  | _ => cases ht

end Surface

namespace Engine

variable (e : Engine U S) {w w' : World U S}

/-- Only ordinary errors become faults. -/
theorem evaluate_fault {source : Source (Value U)} {negate : Bool} {m : Matcher (Value U)} {v : Verdict (Value U)}
    {fault : Value U} (h : e.evaluate source negate m w = (.done v, w')) (hf : v.fault = some fault) :
    e.surface.kind fault w'.outside = .ordinary := by
  obtain ⟨⟨actual, answer⟩, w₁, -, h⟩ := Action.bind_done_iff.mp h
  replace h : (Action.get >>= _) w₁ = _ := h
  rw [Action.get_bind_apply] at h
  rcases answer with (_ | _ | _ | _ | err) | matched
  case error.thrown =>
    dsimp only at h
    split at h
    · next hk =>
      simp only [Action.pure_apply, Prod.mk.injEq, Ending.done.injEq] at h
      obtain ⟨rfl, rfl⟩ := h
      obtain rfl := Option.some.inj hf
      exact hk
    · simp [Action.raise_apply] at h
  case ok =>
    simp only [Action.pure_apply, Prod.mk.injEq, Ending.done.injEq] at h
    obtain ⟨rfl, -⟩ := h
    simp at hf
  all_goals simp [Action.raise_apply] at h

/-- A matcher of raised errors that is met was met by an error that is not of the library's own. -/
theorem raisesExpected_done {r : Nat} {expected message f : Value U}
    (h : e.raisesExpected r expected message f w = (.done true, w')) :
    ∃ v w₁, e.call f [] { w with recorders := w.recorders.setIfInBounds r .absent } = (.raised (.thrown v), w₁) ∧
      (e.surface.kind v w₁.outside).isOwn = false := by
  rw [raisesExpected, Action.get_bind_apply] at h
  split at h
  · simp [Engine.complain, Run.complain] at h
  · replace h :
      (Action.attempt (e.call f []) >>= _) { w with recorders := w.recorders.setIfInBounds r .absent } = _ := h
    rw [Action.bind_apply, Action.attempt_apply] at h
    rcases hc : e.call f [] { w with recorders := w.recorders.setIfInBounds r .absent } with ⟨v | err | _, w₁⟩
    · simp [hc, Action.pure_apply] at h
    · rw [hc] at h
      cases err with
      | thrown v =>
        refine ⟨v, w₁, rfl, ?_⟩
        by_contra ho
        replace h : (Action.get >>= _) w₁ = _ := h
        rw [Action.get_bind_apply, if_pos (by simpa using ho)] at h
        simp [Action.raise_apply] at h
      | _ => simp [Action.raise_apply] at h
    · simp [hc] at h

/-! ## Examples -/

/-- What goes by a text can be told to the journal. -/
theorem noticeOf_of_isText {display : Value U} {d : String} (hd : e.surface.IsText display d) (n : String → Notice)
    (w : World U S) : ∃ w', e.noticeOf display n w = (.done (), w') := by
  have htext : (e.surface.textOf display >>= fun text => pure (n text)) w.outside = (.done (n d), w.outside) :=
    Action.bind_done (hd w.outside).2
  exact ⟨_, e.notice_of_done htext⟩

/-- An outcome is made of a name that is a text, unless no text can be kept of its diagnostic. -/
theorem makeOutcome_of_isText {display : Value U} {d : String} (hd : e.surface.IsText display d) (tag : Tag)
    (diagnostic : Value U) (w : World U S) :
    e.makeOutcome tag display diagnostic w = match e.surface.recordText? diagnostic w.outside with
      | some t => (.done ⟨tag, d, t⟩, w)
      | none => e.complain .badRecord w := by
  rw [makeOutcome, Action.get_bind_apply, hd.recordText?]
  cases e.surface.recordText? diagnostic w.outside <;> rfl

/-- The name and the diagnostic being texts, an outcome is made of them. -/
theorem finish_of_isText {display diagnostic : Value U} {d t : String} (hd : e.surface.IsText display d)
    (ht : e.surface.IsText diagnostic t) (tag : Tag) (w : World U S) :
    ∃ w', e.finish tag display diagnostic w = (.done ⟨tag, d, t⟩, w') := by
  obtain ⟨w', hn⟩ := e.noticeOf_of_isText hd (.finishedExample · tag) w
  refine ⟨w', (Action.bind_done hn).trans ?_⟩
  rw [e.makeOutcome_of_isText hd, ht.recordText?]

theorem finish_text (tag : Tag) (d t : String) (w : World U S) :
    ∃ w', e.finish tag (.text d) (.text t) w = (.done ⟨tag, d, t⟩, w') :=
  e.finish_of_isText (e.surface.isText_text d) (e.surface.isText_text t) tag w

/-- An outcome is of the class and has the diagnostic that it was made of. -/
theorem finish_done {tag : Tag} {display : Value U} {t : String} {o : Outcome}
    (h : e.finish tag display (.text t) w = (.done o, w')) : o.tag = tag ∧ o.diagnostic = t := by
  obtain ⟨⟨⟩, w₁, -, h⟩ := Action.bind_done_iff.mp h
  rw [makeOutcome, Action.get_bind_apply] at h
  cases hd : e.surface.recordText? display w₁.outside with
  | some d =>
    rw [hd] at h
    cases h
    exact ⟨rfl, rfl⟩
  | none =>
    rw [hd] at h
    cases h

variable {err : Exn (Value U)} {display : Value U}

theorem conclude_of_passes (hk : (e.surface.kindOf err w.outside).passes = true) :
    e.conclude display err w = (.raised err, w) := by
  unfold conclude
  rw [Action.get_bind_apply]
  cases hkind : e.surface.kindOf err w.outside <;> first | rfl | (rw [hkind] at hk; cases hk)

theorem conclude_authoring (hk : e.surface.kindOf err w.outside = .authoring) :
    e.conclude display err w = (.raised err, w) :=
  e.conclude_of_passes (hk ▸ rfl)

theorem conclude_of_stays {k : Kind} (hk : e.surface.kindOf err w.outside = k) (hp : k.passes = false) :
    e.conclude display err w =
      (e.step (e.surface.diagnosis k err) >>= fun text => e.finish k.outcomeTag display (.text text)) w := by
  unfold conclude
  rw [Action.get_bind_apply, hk]
  cases err with
  | thrown v => cases k <;> first | rfl | cases hp
  | _ => subst hk; first | rfl | cases hp

/-- A failure or a fault stays, and its diagnostic is its text. -/
theorem conclude_of_tag? {tag : Tag} (hk : (e.surface.kindOf err w.outside).tag? = some tag) :
    e.conclude display err w =
      (e.step (e.surface.errorText err) >>= fun text => e.finish tag display (.text text)) w := by
  cases hkind : e.surface.kindOf err w.outside <;> rw [hkind] at hk <;> cases hk <;> exact e.conclude_of_stays hkind rfl

variable {ev : Evaluator (Value U)} {x : Example (Value U)} {body : Value U}

/-- The example has its name and its scope, and its body is about to be called. -/
structure Begun (e : Engine U S) (ev : Evaluator (Value U)) (x : Example (Value U)) (w : World U S)
    (body display : Value U) (scope : Nat) (begun : World U S) : Prop where
  body : x.body = some body
  named : ∃ w₁, e.step (e.surface.displayName w.forest x) w = (.done display, w₁) ∧ scope = w₁.scopes.size ∧
    e.noticeOf display .runningExample (w₁.opened x ev) = (.done (), begun)

/-- What becomes of an example depends on how its body ends. -/
theorem runExample_of_begun {scope : Nat} {begun : World U S} (hb : e.Begun ev x w body display scope begun) :
    e.runExample ev x w = (Action.attempt (e.callWith body [.scope scope]) >>= fun r =>
      match r with
      | .error err => e.conclude display err
      | .ok _ => e.succeed scope display) begun := by
  obtain ⟨hbody, w₁, hd, rfl, hn⟩ := hb
  rw [runExample, Action.get_bind_apply, Action.bind_done hd, hbody]
  show (e.noticeOf display .runningExample >>= fun _ =>
    Action.attempt (e.callWith body [.scope w₁.scopes.size]) >>= _) (w₁.opened x ev) = _
  exact Action.bind_done hn

theorem runExample_of_raised {w₁ w₂ w₃ : World U S} (hbody : x.body = some body)
    (hd : e.step (e.surface.displayName w.forest x) w = (.done display, w₁))
    (hn : e.noticeOf display .runningExample (w₁.opened x ev) = (.done (), w₂))
    (hc : e.callWith body [.scope w₁.scopes.size] w₂ = (.raised err, w₃)) :
    e.runExample ev x w = e.conclude display err w₃ := by
  rw [e.runExample_of_begun ⟨hbody, w₁, hd, rfl, hn⟩, Action.bind_done (Action.attempt_of_raised hc)]

end Engine

/-- An error of the library's own that is raised while the body of an example runs, and is not caught by the code of
the specification itself, however deep below the body that may be.

A mistake in the declarations is the ending of the example and of the run as it is; just the outcomes of the examples
before are reported. By a failure or a fault the example has no outcome but a failed or an errored one, told by the text
of that very error; it has this outcome where it goes by a text and the error has one. And no such error
is taken for anything else on its way: a verdict holds only ordinary errors as faults, a matcher of raised errors is
met only by errors that are not of the library's own, and a lookup through which an error passes takes the name back
and keeps no value. -/
theorem own_error_passes (h : Host U S) {n : Nat} {x : Example (Value U)} {body display : Value U} {err : Exn (Value U)}
    {w w₀ w₁ w₂ : World U S} (hbody : x.body = some body)
    (hd : (h.engine n).step (h.toSurface.displayName w.forest x) w = (.done display, w₁))
    (hn : (h.engine n).noticeOf display .runningExample (w₁.opened x .standard) = (.done (), w₂))
    (hu : Uncaught h err w₀ ((h.engine n).callWith body [.scope w₁.scopes.size]) w₂) :
    (h.toSurface.kindOf err w₀.outside = .authoring →
      ∃ w₃, (h.engine n).runExample .standard x w = (.raised err, w₃) ∧ w₃.written = w.written ∧
        ∀ (r : Reporting) (root limit : Nat) (v : World U S) (before after : List (Example (Value U)))
          (os : List Outcome), v.forest.WellFormed → v.forest.ClosedBelow root →
          v.forest.walk root = before ++ x :: after → before.length < limit →
          (Runner.standard h n .standard).Ran r before v os w →
          (h.engine n).runTree r .standard limit root v = (.raised err, w₃) ∧
          (h.engine n).runOrExit r .standard limit root v = (.raised err, w₃) ∧ Reported r os v w₃) ∧
    (∀ tag, (h.toSurface.kindOf err w₀.outside).tag? = some tag →
      (∀ o w₃, (h.engine n).runExample .standard x w = (.done o, w₃) →
        o.tag = tag ∧ ∃ s, h.toSurface.errorText err w₀.outside = (.done o.diagnostic, s)) ∧
      ∀ d t s, display = .text d → h.toSurface.errorText err w₀.outside = (.done t, s) →
        ∃ w₃, (h.engine n).runExample .standard x w = (.done ⟨tag, d, t⟩, w₃)) ∧
    (∀ k source negate m v v' verdict fault, (h.engine k).evaluate source negate m v = (.done verdict, v') →
      verdict.fault = some fault → h.toSurface.kind fault v'.outside = .ordinary) ∧
    (∀ k r expected message f v v', (h.engine k).raisesExpected r expected message f v = (.done true, v') →
      ∃ met v₁, (h.engine k).call f [] { v with recorders := v.recorders.setIfInBounds r .absent } =
        (.raised (.thrown met), v₁) ∧ (h.toSurface.kind met v₁.outside).isOwn = false) ∧
    (∀ k id s name ds d rest t v v', v.scope? id = some s → s.kept? name = none → s.pathFrom? name = none →
      h.toSurface.definitionsFor v.forest s.owner.group name v.outside = (.done ds, t) → ds.reverse = d :: rest →
      (h.engine k).produce ⟨v.serials, id, d, rest⟩ ((v.withOutside t).counted.enter id name) = (.raised err, v') →
      (h.engine k).lookupName id name v = (.raised err, v'.leave id)) := by
  refine ⟨fun hk => ?_, fun tag hk => ?_, ?_, ?_, ?_⟩
  · obtain ⟨w₃, hc, hw⟩ := hu.raised (by rw [hk]; rfl)
    have hx : (h.engine n).runExample .standard x w = (.raised err, w₃) :=
      ((h.engine n).runExample_of_raised hbody hd hn hc).trans ((h.engine n).conclude_authoring (hw ▸ hk))
    have hs : ((h.engine n).runExample .standard x w).2.written = w.written :=
      (Runner.standard h n .standard).silent x w
    refine ⟨w₃, hx, ?_, fun r root limit v before after os hf hcb hwalk hl hran => ?_⟩
    · rwa [hx] at hs
    · exact (h.engine n).drive_of_raised hf hcb hwalk hl hran hx
  · obtain ⟨w₃, hc, hw⟩ := hu.raised (Kind.isOwn_of_tag? hk)
    have hx := ((h.engine n).runExample_of_raised hbody hd hn hc).trans ((h.engine n).conclude_of_tag? (hw ▸ hk))
    refine ⟨fun o w₄ ho => ?_, fun d t s hdisplay ht => ?_⟩
    · obtain ⟨text, w₅, ht, hf⟩ := Action.bind_done_iff.mp (hx.symm.trans ho)
      obtain ⟨s, hs, -⟩ := (h.engine n).step_done ht
      obtain ⟨htag, rfl⟩ := (h.engine n).finish_done hf
      exact ⟨htag, s, hw ▸ hs⟩
    · subst hdisplay
      obtain ⟨w₄, hf⟩ := (h.engine n).finish_text tag d t (w₃.withOutside s)
      exact ⟨w₄, hx.trans ((Action.bind_done ((h.engine n).step_of_done (hw ▸ ht))).trans hf)⟩
  · exact fun k source negate m v v' verdict fault he hf => (h.engine k).evaluate_fault he hf
  · exact fun k r expected message f v v' hr => (h.engine k).raisesExpected_done hr
  · intro k id s name ds d rest t v v' hs hk hp hds hr hprod
    rw [(h.engine k).lookupName_of_miss hs hk hp, (h.engine k).compute_of_cons hds hr, hprod]

/-- The body under 0 expects the block under 1 to raise whatever it may; the block makes a mistake in a declaration
known. -/
def mistakenCode : NumberedCode := fun u _ =>
  if u = 0 then
    .bind (.ask (.require ⟨.block (.user 1), .standard, none⟩ false ⟨.absent, .raises 0 .absent .absent⟩))
      fun _ => .pure .absent
  else .raise (.authoring ⟨.undefinedTarget, none⟩)

/-- A mistake that a block makes known is no match, though any error is expected, and is the ending of the example. -/
theorem mistake_in_block_passes :
    ∃ w, ((Host.numbers (fun _ => false) mistakenCode).engine 2).runExample .standard
      ⟨.text "first", 0, 0, some (.user 0), .absent⟩ (singleWorld .absent) =
        (.raised (.authoring ⟨.undefinedTarget, none⟩), w) := by
  obtain ⟨hauthoring, -⟩ := own_error_passes (Host.numbers (fun _ => false) mistakenCode) (n := 2)
    (x := ⟨.text "first", 0, 0, some (.user 0), .absent⟩) (w := singleWorld .absent) rfl rfl rfl
    (.offered (.called (.program (.bound (.asked (.required (.judgedBlock rfl (.first (.expected
      (.expectedError rfl (.called (.here rfl))))))))))))
  obtain ⟨w, hw, -⟩ := hauthoring rfl
  exact ⟨w, hw⟩

/-- The body under 0 fails with a text, the one under 1 with a number. -/
def failingCode : NumberedCode := fun u _ =>
  if u = 0 then .raise (.failure (.text "expected 1 to eq 2")) else .raise (.failure (.user 9))

/-- A failure is no outcome where the example goes by a name that is no text, or where the message cannot be shown: the
error that says so ends the example. -/
theorem failure_without_outcome :
    (∃ w, ((Host.numbers (fun u => u == 9) failingCode).engine 2).callWith (.user 0) [.scope 0] (singleWorld .absent) =
      (.raised (.failure (.text "expected 1 to eq 2")), w)) ∧
    (∃ w, ((Host.numbers (fun u => u == 9) failingCode).engine 2).runExample .standard
      ⟨.user 5, 0, 0, some (.user 0), .absent⟩ (singleWorld .absent) =
        (.raised (.thrown (.text "a text was expected")), w)) ∧
    (∃ w, ((Host.numbers (fun u => u == 9) failingCode).engine 2).callWith (.user 1) [.scope 0] (singleWorld .absent) =
      (.raised (.failure (.user 9)), w)) ∧
    ∃ w, ((Host.numbers (fun u => u == 9) failingCode).engine 2).runExample .standard
      ⟨.text "first", 0, 0, some (.user 1), .absent⟩ (singleWorld .absent) = (.raised (.thrown (.user 9)), w) :=
  ⟨⟨_, rfl⟩, ⟨_, rfl⟩, ⟨_, rfl⟩, ⟨_, rfl⟩⟩

end Exemplar

import Exemplar.Proofs.Passage

/-!
# Exemplar.Proofs.Leaving — which errors leave the run of an example

What the body of an example raises is caught, and all but a mistake in the declarations and an error that is not meant
to be caught becomes an outcome. But the outcome is put into words when the body has ended and nothing catches errors
any more: the name of the example, the error that the body has ended with, or the expectation that was met last. An
error that is raised on that way leaves the run of the example, be it an ordinary one.

* `Engine.Leaves`: the ways in which an error can leave.
* `Host.runExample_raised_iff`: there are no other ways.
-/

namespace Exemplar

variable {U S : Type}

namespace Engine

variable (e : Engine U S) {w : World U S} {err : Exn (Value U)} {display : Value U}

/-! ## Names -/

/-- An example that is described by a text or not at all goes by a text. -/
theorem displayName_isText {sf : Surface U S} {x : Example (Value U)} {f : Forest (Value U)} {s s' : S}
    (hx : x.description.isAbsent = true ∨ ∃ d, sf.IsText x.description d)
    (h : sf.displayName f x s = (.done display, s')) : ∃ d, sf.IsText display d := by
  rw [Surface.displayName, Action.get_bind_apply] at h
  split at h
  · next hd =>
    obtain ⟨rfl, -⟩ : x.description = display ∧ s = s' := by simpa [Action.pure_apply] using h
    refine hx.resolve_left fun ha => ?_
    cases hv : x.description with
    | absent => simp [hv, Surface.holds] at hd
    | _ => simp [hv, Value.isAbsent] at ha
  · obtain ⟨path, s₁, -, h⟩ := Action.bind_done_iff.mp h
    simp only [Action.pure_apply, Prod.mk.injEq, Ending.done.injEq] at h
    exact ⟨_, h.1 ▸ sf.isText_text _⟩

/-! ## Ways out -/

/-- The ways in which an error leaves the run of an example. -/
inductive Leaves (e : Engine U S) (ev : Evaluator (Value U)) (x : Example (Value U)) (w : World U S) :
    Exn (Value U) → World U S → Prop
  /-- The name of the example is not to be made. -/
  | unnamed {err : Exn (Value U)} {w' : World U S}
    (hd : e.step (e.surface.displayName w.forest x) w = (.raised err, w')) : Leaves e ev x w err w'
  /-- The message of a pending example is no text. -/
  | message {display : Value U} {w₁ w₂ w' : World U S} {err : Exn (Value U)} (hbody : x.body = none)
    (hd : e.step (e.surface.displayName w.forest x) w = (.done display, w₁))
    (hn : e.noticeOf display .skippingPending w₁ = (.done (), w₂))
    (hm : e.surface.holds x.pendingMessage w₂.outside = true)
    (ht : e.surface.recordText? x.pendingMessage w₂.outside = none)
    (hc : (e.complain .badRecord : Run U S Outcome) w₂ = (.raised err, w')) : Leaves e ev x w err w'
  /-- The body raises a mistake in the declarations, or what is not meant to be caught. -/
  | passed {body display : Value U} {scope : Nat} {begun w' : World U S} {err : Exn (Value U)}
    (hb : e.Begun ev x w body display scope begun) (hr : e.callWith body [.scope scope] begun = (.raised err, w'))
    (hk : (e.surface.kindOf err w'.outside).passes = true) : Leaves e ev x w err w'
  /-- The body raises another error, which cannot be put into words. -/
  | undiagnosed {body display : Value U} {scope : Nat} {begun ended w' : World U S} {met err : Exn (Value U)}
    (hb : e.Begun ev x w body display scope begun) (hr : e.callWith body [.scope scope] begun = (.raised met, ended))
    (hk : (e.surface.kindOf met ended.outside).passes = false)
    (ht : e.step (e.surface.diagnosis (e.surface.kindOf met ended.outside) met) ended = (.raised err, w')) :
    Leaves e ev x w err w'
  /-- The body raises nothing, but the expectation that was met last cannot be put into words. -/
  | untold {body display v : Value U} {scope : Nat} {begun ended w' : World U S} {s : Scope (Value U)}
    {verdict : Verdict (Value U)} {err : Exn (Value U)} (hb : e.Begun ev x w body display scope begun)
    (hr : e.callWith body [.scope scope] begun = (.done v, ended)) (hs : ended.scope? scope = some s)
    (hv : s.successes.getLast? = some verdict) (ht : e.summary verdict ended = (.raised err, w')) :
    Leaves e ev x w err w'

/-- An example that goes by a text, and the ending of what makes its outcome. -/
theorem skip_raised {x : Example (Value U)} {d : String} {w' : World U S} (hd : e.surface.IsText display d)
    (h : e.skip x display w = (.raised err, w')) :
    ∃ w₂, e.noticeOf display .skippingPending w = (.done (), w₂) ∧
      e.surface.holds x.pendingMessage w₂.outside = true ∧ e.surface.recordText? x.pendingMessage w₂.outside = none ∧
      (e.complain .badRecord : Run U S Outcome) w₂ = (.raised err, w') := by
  obtain ⟨w₂, hn⟩ := e.noticeOf_of_isText hd .skippingPending w
  rw [skip, Action.bind_done hn, Action.get_bind_apply, e.makeOutcome_of_isText hd] at h
  cases hm : e.surface.holds x.pendingMessage w₂.outside with
  | false =>
    rw [hm] at h
    cases h
  | true =>
    rw [hm, if_pos rfl] at h
    cases ht : e.surface.recordText? x.pendingMessage w₂.outside with
    | none =>
      rw [ht] at h
      exact ⟨w₂, hn, hm, ht, h⟩
    | some t =>
      rw [ht] at h
      cases h

/-- Once there is a diagnostic nothing is raised any more. -/
theorem raised_of_finish {y : Run U S String} {d : String} {tag : Tag} {w' : World U S} (hd : e.surface.IsText display d)
    (h : (y >>= fun text => e.finish tag display (.text text)) w = (.raised err, w')) : y w = (.raised err, w') := by
  rcases hy : y w with ⟨text | err' | _, w₁⟩
  · obtain ⟨w₂, hf⟩ := e.finish_of_isText hd (e.surface.isText_text text) tag w₁
    rw [Action.bind_done hy, hf] at h
    cases h
  · rw [Action.bind_raised hy] at h
    cases h
    rfl
  · rw [Action.bind_exhausted hy] at h
    cases h

/-- What is raised when the body has ended well is raised by the summary of the last expectation that was met. -/
theorem succeed_raised {scope : Nat} {d : String} {w' : World U S} (hd : e.surface.IsText display d)
    (h : e.succeed scope display w = (.raised err, w')) :
    ∃ s verdict, w.scope? scope = some s ∧ s.successes.getLast? = some verdict ∧
      e.summary verdict w = (.raised err, w') := by
  rw [succeed, Action.bind_apply, Run.scope_apply] at h
  cases hs : w.scope? scope with
  | none =>
    rw [hs] at h
    cases h
  | some s =>
    rw [hs] at h
    dsimp only at h
    cases hv : s.successes.getLast? with
    | none =>
      rw [hv] at h
      obtain ⟨w₁, hf⟩ := e.finish_of_isText hd hd .passed w
      cases hf.symm.trans h
    | some verdict =>
      rw [hv] at h
      exact ⟨s, verdict, rfl, hv, e.raised_of_finish hd h⟩

/-- What is raised on account of an error of the body is that error, or raised where it is put into words. -/
theorem conclude_raised {met : Exn (Value U)} {d : String} {w' : World U S} (hd : e.surface.IsText display d)
    (h : e.conclude display met w = (.raised err, w')) :
    (e.surface.kindOf met w.outside).passes = true ∧ met = err ∧ w = w' ∨
    (e.surface.kindOf met w.outside).passes = false ∧
      e.step (e.surface.diagnosis (e.surface.kindOf met w.outside) met) w = (.raised err, w') := by
  cases hp : (e.surface.kindOf met w.outside).passes with
  | true =>
    rw [e.conclude_of_passes hp] at h
    cases h
    exact .inl ⟨rfl, rfl, rfl⟩
  | false =>
    rw [e.conclude_of_stays rfl hp] at h
    exact .inr ⟨rfl, e.raised_of_finish hd h⟩

/-- Each of the ways is one. -/
theorem raised_of_leaves {ev : Evaluator (Value U)} {x : Example (Value U)} {w' : World U S}
    (hx : x.description.isAbsent = true ∨ ∃ d, e.surface.IsText x.description d) (h : e.Leaves ev x w err w') :
    e.runExample ev x w = (.raised err, w') := by
  cases h with
  | unnamed hd =>
    rw [runExample, Action.get_bind_apply]
    exact Action.bind_raised hd
  | message hbody hd hn hm ht hc =>
    obtain ⟨s, hname, -⟩ := e.step_done hd
    obtain ⟨d, htext⟩ := displayName_isText hx hname
    rw [runExample, Action.get_bind_apply, Action.bind_done hd, hbody]
    dsimp only
    rw [skip, Action.bind_done hn, Action.get_bind_apply, e.makeOutcome_of_isText htext, hm, if_pos rfl, ht]
    exact hc
  | passed hb hr hk =>
    rw [e.runExample_of_begun hb, Action.bind_done (Action.attempt_of_raised hr)]
    exact e.conclude_of_passes hk
  | undiagnosed hb hr hk ht =>
    rw [e.runExample_of_begun hb, Action.bind_done (Action.attempt_of_raised hr)]
    exact (e.conclude_of_stays rfl hk).trans (Action.bind_raised ht)
  | untold hb hr hs hv ht =>
    rw [e.runExample_of_begun hb, Action.bind_done (Action.attempt_of_done hr)]
    show e.succeed _ _ _ = _
    rw [succeed, Action.bind_apply, Run.scope_apply, hs]
    dsimp only
    rw [hv]
    exact Action.bind_raised ht

/-- There are no others. -/
theorem leaves_of_raised {ev : Evaluator (Value U)} {x : Example (Value U)} {w' : World U S}
    (hx : x.description.isAbsent = true ∨ ∃ d, e.surface.IsText x.description d)
    (h : e.runExample ev x w = (.raised err, w')) : e.Leaves ev x w err w' := by
  rcases hd : e.step (e.surface.displayName w.forest x) w with ⟨display | err' | _, w₁⟩
  · obtain ⟨s, hname, -⟩ := e.step_done hd
    obtain ⟨d, htext⟩ := displayName_isText hx hname
    cases hbody : x.body with
    | none =>
      rw [runExample, Action.get_bind_apply, Action.bind_done hd, hbody] at h
      obtain ⟨w₂, hn, hm, ht, hc⟩ := e.skip_raised htext h
      exact .message hbody hd hn hm ht hc
    | some body =>
      obtain ⟨begun, hn⟩ := e.noticeOf_of_isText htext .runningExample (w₁.opened x ev)
      have hb : e.Begun ev x w body display w₁.scopes.size begun := ⟨hbody, w₁, hd, rfl, hn⟩
      rw [e.runExample_of_begun hb] at h
      rcases hr : e.callWith body [.scope w₁.scopes.size] begun with ⟨v | met | _, ended⟩
      · rw [Action.bind_done (Action.attempt_of_done hr)] at h
        obtain ⟨s, verdict, hs, hv, ht⟩ := e.succeed_raised htext h
        exact .untold hb hr hs hv ht
      · rw [Action.bind_done (Action.attempt_of_raised hr)] at h
        rcases e.conclude_raised htext h with ⟨hk, rfl, rfl⟩ | ⟨hk, ht⟩
        · exact .passed hb hr hk
        · exact .undiagnosed hb hr hk ht
      · rw [Action.bind_apply, Action.attempt_apply, hr] at h
        cases h
  · rw [runExample, Action.get_bind_apply, Action.bind_raised hd] at h
    cases h
    exact .unnamed hd
  · rw [runExample, Action.get_bind_apply, Action.bind_exhausted hd] at h
    cases h

end Engine

/-- Which errors leave the run of an example that is described by a text or not at all. A mistake in the declarations
and an error that is not meant to be caught leave when the body raises them. Any other error leaves only from where
the outcome is put into words: the name of the example, the message of a pending one, the error with which the body
has ended, or the expectation that was met last. And an error of the body that does not go on its way and can be put
into words is the diagnostic of a failed or an errored outcome. -/
theorem Host.runExample_raised_iff (h : Host U S) (n : Nat) (ev : Evaluator (Value U)) {x : Example (Value U)}
    (hx : x.description.isAbsent = true ∨ ∃ d, h.toSurface.IsText x.description d) (w : World U S) :
    (∀ err w', (h.engine n).runExample ev x w = (.raised err, w') ↔ (h.engine n).Leaves ev x w err w') ∧
    ∀ body display scope begun err ended k t s, (h.engine n).Begun ev x w body display scope begun →
      (h.engine n).callWith body [.scope scope] begun = (.raised err, ended) →
      h.toSurface.kindOf err ended.outside = k → k.passes = false →
      h.toSurface.diagnosis k err ended.outside = (.done t, s) →
      ∃ d w', h.toSurface.IsText display d ∧
        (h.engine n).runExample ev x w = (.done ⟨k.outcomeTag, d, t⟩, w') := by
  refine ⟨fun err w' => ⟨(h.engine n).leaves_of_raised hx, (h.engine n).raised_of_leaves hx⟩, ?_⟩
  intro body display scope begun err ended k t s hb hr hk hp ht
  obtain ⟨w₁, hd, -, -⟩ := hb.named
  obtain ⟨s₁, hname, -⟩ := (h.engine n).step_done hd
  obtain ⟨d, htext⟩ := Engine.displayName_isText hx hname
  obtain ⟨w', hf⟩ := (h.engine n).finish_of_isText htext ((h.engine n).surface.isText_text t) k.outcomeTag
    (ended.withOutside s)
  refine ⟨d, w', htext, ?_⟩
  rw [(h.engine n).runExample_of_begun hb, Action.bind_done (Action.attempt_of_raised hr)]
  exact ((h.engine n).conclude_of_stays hk hp).trans ((Action.bind_done ((h.engine n).step_of_done ht)).trans hf)

/-- The body under 0 expects the number 9 to be what it is, and that is met. Any other body raises its own number. -/
def shyCode : NumberedCode := fun u _ =>
  if u = 0 then
    .bind (.ask (.require ⟨.value (.user 9), .standard, some 0⟩ false ⟨.absent, .same (.user 9)⟩)) fun _ => .pure .absent
  else .raise (.thrown (.user u))

/-- An example with the body under that number. -/
def Example.numbered (u : Nat) : Example (Value Nat) := ⟨.text "first", 0, 0, some (.user u), .absent⟩

/-- That example with the body under 0 under way. -/
def begunWorld : World Nat Unit := (singleWorld .absent).opened (.numbered 0) .standard

/-- The met expectation cannot be told, so an error leaves; the body that raises a number that can be shown errs. -/
theorem runExample_raised_iff_numbers :
    (∃ w', ((Host.numbers (fun u => u == 9) shyCode).engine 2).Leaves .standard (.numbered 0) (singleWorld .absent)
      (.thrown (.user 9)) w') ∧
    ∃ d w', ((Host.numbers (fun u => u == 9) shyCode).engine 2).runExample .standard (.numbered 7)
      (singleWorld .absent) = (.done ⟨.errored, d, "number: 7"⟩, w') := by
  have hx (u : Nat) : (Example.numbered u).description.isAbsent = true ∨
      ∃ d, (Host.numbers (fun u => u == 9) shyCode).toSurface.IsText (Example.numbered u).description d :=
    .inr ⟨"first", Surface.isText_text _ _⟩
  obtain ⟨hleaves, -⟩ :=
    (Host.numbers (fun u => u == 9) shyCode).runExample_raised_iff 2 .standard (hx 0) (singleWorld .absent)
  obtain ⟨-, herred⟩ :=
    (Host.numbers (fun u => u == 9) shyCode).runExample_raised_iff 2 .standard (hx 7) (singleWorld .absent)
  obtain ⟨d, w', -, hdone⟩ := herred (.user 7) (.text "first") 0 _ (.thrown (.user 7)) _ .ordinary "number: 7" ()
    ⟨rfl, _, rfl, rfl, rfl⟩ rfl rfl rfl rfl
  exact ⟨⟨_, (hleaves _ _).mp rfl⟩, d, w', hdone⟩

/-- Ordinary errors leave though the example is described by a text: where an expectation is met by a value that cannot
be shown, where the body raises such a value, and where the message of a pending example is no text. -/
theorem ordinary_error_leaves :
    let e := (Host.numbers (fun u => u == 9) shyCode).engine 2
    let w := singleWorld .absent
    (∀ v s, e.surface.kindOf (.thrown v) s = .ordinary) ∧
    (∃ w', e.runExample .standard (.numbered 0) w = (.raised (.thrown (.user 9)), w')) ∧
    (∃ w', e.runExample .standard (.numbered 9) w = (.raised (.thrown (.user 9)), w')) ∧
    ∃ w', e.runExample .standard ⟨.text "first", 0, 0, none, .user 7⟩ w =
      (.raised (.thrown (.text "a text was expected")), w') :=
  ⟨fun _ _ => rfl, ⟨_, rfl⟩, ⟨_, rfl⟩, ⟨_, rfl⟩⟩

end Exemplar

import Exemplar.Proofs.Growth
import Exemplar.Proofs.Worlds

/-!
# Exemplar.Proofs.Frame — what every run keeps

A frame says which worlds are sound and how a later world may differ from an earlier one. It is told by what the
single changes do that the library makes to a world. Every operation of the library then keeps to it, whatever the
code of the specification does in between: one law per operation, and by induction on the levels one law for all
programs.

Each law is about two engines at once, which run programs to the same effect. So it also covers a run that is watched:
`Host.watched` runs a program as `Host.exec` does, but holds every single step against a check.

* `Alike.perform`, `Alike.runExample`: every request, and a whole example, keep to the frame.
* `exec_keeps`, `holds_of_reached`: so does every program, and every world that can be reached is sound.
* `watched_agree`: a check that the frame vouches for never fails.
-/

namespace Exemplar

variable {U S α β : Type}

/-! ## Frames -/

/-- A chain that has a definition is not there for nothing. -/
theorem Surface.defines_of_definitionsFor (sf : Surface U S) {f : Forest (Value U)} {g : Nat} {t t' : S}
    {name : HelperName (Value U)} {ds : List (Definition (Value U))}
    (h : sf.definitionsFor f g name t = (.done ds, t')) (hds : ds ≠ []) : f.Defines g name := by
  have hp (he : (pure (f.declaredChain g name) : Step U S _) t = (.done ds, t')) : f.declaredChain g name ≠ [] := by
    simp only [Action.pure_apply, Prod.mk.injEq, Ending.done.injEq] at he
    exact he.1 ▸ hds
  unfold Surface.definitionsFor at h
  by_cases hn : name.same .subject = true
  · simp only [hn, if_true] at h
    cases ht : f.target? g with
    | some described => exact Or.inr ⟨hn, ht ▸ rfl⟩
    | none =>
      rw [ht] at h
      exact Or.inl (hp h)
  · simp only [hn] at h
    exact Or.inl (hp h)

/-- What is kept through every run. The name of a helper that is computed comes and goes in between, so the worlds
met while it is there are tied to the ones before and after. -/
structure Frame (U S : Type) where
  /-- The world is sound. -/
  holds : World U S → Prop
  /-- The second world may come after the first. -/
  leads : World U S → World U S → Prop
  refl (w : World U S) : leads w w
  trans {w₁ w₂ w₃ : World U S} : leads w₁ w₂ → leads w₂ w₃ → leads w₁ w₃
  stays {w w' : World U S} : holds w → leads w w' → holds w'
  outside (w : World U S) (s : S) : leads w (w.withOutside s)
  tells (w : World U S) (e : Event (Value U)) : (∀ stream t, e ≠ .wrote stream t) → leads w (w.record e)
  counts (w : World U S) : leads w w.counted
  recorders (w : World U S) (r : Array (Value U)) : w.recorders.size ≤ r.size → leads w { w with recorders := r }
  declares {w : World U S} {f : Forest (Value U)} : holds w → w.forest.Declares f → leads w (w.withForest f)
  succeeds (w : World U S) (id : Nat) (v : Verdict (Value U)) :
    v.valid = true → v.fault = none → leads w (w.succeed id v)
  opens (w : World U S) (x : Example (Value U)) (evaluator : Evaluator (Value U)) : leads w (w.opened x evaluator)
  computes {w : World U S} {id : Nat} {s : Scope (Value U)} {name : HelperName (Value U)} : holds w →
    w.scope? id = some s → s.kept? name = none → s.pathFrom? name = none → w.forest.Defines s.owner.group name →
    holds (w.enter id name) ∧ ∀ w', leads (w.enter id name) w' → leads w (w'.leave id) ∧
      ∀ v, leads w ((w'.leave id).keep id name v)

namespace Frame

variable (F : Frame U S)

/-- From the world on the two do the same, and it keeps to the frame. -/
def Same (w : World U S) (x y : Run U S α) : Prop := x w = y w ∧ F.leads w (x w).2

/-- From every sound world on the two do the same, and it keeps to the frame. -/
def Agree (x y : Run U S α) : Prop := ∀ w, F.holds w → F.Same w x y

/-- Trees may be declared within the frame, and lines be written. -/
structure Open : Prop where
  roots (w : World U S) (description : Value U) (target : Option (Value U)) :
    F.leads w (w.withForest (w.forest.addGroup (.fresh description none target)))
  writes (w : World U S) (stream : Stream) (t : String) : F.leads w (w.record (.wrote stream t))

/-- The two engines serve the same host and run its programs to the same effect. -/
structure Alike (e e' : Engine U S) : Prop where
  host : e'.host = e.host
  run {α : Type} (p : Program U S α) : F.Agree (e.run p) (e'.run p)

variable {F}

/-! ## Composition -/

theorem Same.of_leads {w : World U S} {x : Run U S α} (h : F.leads w (x w).2) : F.Same w x x := ⟨rfl, h⟩

theorem Same.bind {w : World U S} {x y : Run U S α} {f g : α → Run U S β} (hw : F.holds w) (h : F.Same w x y)
    (hf : ∀ a w', x w = (.done a, w') → F.holds w' → F.Same w' (f a) (g a)) : F.Same w (x >>= f) (y >>= g) := by
  obtain ⟨he, hl⟩ := h
  unfold Same
  rw [Action.bind_apply, Action.bind_apply, ← he]
  rcases hx : x w with ⟨a | err | _, w'⟩
  · rw [hx] at hl
    obtain ⟨hfe, hfl⟩ := hf a w' hx (F.stays hw hl)
    exact ⟨hfe, F.trans hl hfl⟩
  · rw [hx] at hl
    exact ⟨rfl, hl⟩
  · rw [hx] at hl
    exact ⟨rfl, hl⟩

theorem Agree.bind {x y : Run U S α} {f g : α → Run U S β} (h : F.Agree x y) (hf : ∀ a, F.Agree (f a) (g a)) :
    F.Agree (x >>= f) (y >>= g) :=
  fun w hw => (h w hw).bind hw fun a w' _ hw' => hf a w' hw'

theorem Agree.of_leads {x : Run U S α} (h : ∀ w, F.holds w → F.leads w (x w).2) : F.Agree x x :=
  fun w hw => .of_leads (h w hw)

theorem Agree.pure (a : α) : F.Agree (Pure.pure a) (Pure.pure a) := .of_leads fun w _ => F.refl w

theorem Agree.raise (err : Exn (Value U)) : F.Agree (Action.raise err : Run U S α) (Action.raise err) :=
  .of_leads fun w _ => F.refl w

theorem Agree.gets (f : World U S → α) : F.Agree (Action.gets f) (Action.gets f) := .of_leads fun w _ => F.refl w

theorem Same.get {w : World U S} {f g : World U S → Run U S α} (h : F.Same w (f w) (g w)) :
    F.Same w (Action.get >>= f) (Action.get >>= g) := h

theorem Agree.get {f g : World U S → Run U S α} (h : ∀ w, F.holds w → F.Same w (f w) (g w)) :
    F.Agree (Action.get >>= f) (Action.get >>= g) := h

theorem Agree.attempt {x y : Run U S α} (h : F.Agree x y) : F.Agree (Action.attempt x) (Action.attempt y) := by
  intro w hw
  obtain ⟨he, hl⟩ := h w hw
  unfold Same
  rw [Action.attempt_apply, Action.attempt_apply, ← he]
  rcases hx : x w with ⟨a | err | _, w'⟩ <;> exact ⟨rfl, by rw [hx] at hl; exact hl⟩

theorem Agree.ensure {x y : Run U S α} {after : World U S → World U S} (h : F.Agree x y)
    (ha : ∀ w, F.holds w → F.leads w (after w)) : F.Agree (Action.ensure x after) (Action.ensure y after) := by
  intro w hw
  obtain ⟨he, hl⟩ := h w hw
  unfold Same
  rw [Action.ensure_apply, Action.ensure_apply, ← he]
  exact ⟨rfl, F.trans hl (ha _ (F.stays hw hl))⟩

/-- A branch of two actions that do the same on each side. -/
theorem Same.ite {w : World U S} {c : Prop} [Decidable c] {x y x' y' : Run U S α} (h : F.Same w x y)
    (h' : F.Same w x' y') : F.Same w (if c then x else x') (if c then y else y') := by
  split
  · exact h
  · exact h'

/-! ## Small operations -/

theorem record {ev : Event (Value U)} (h : ∀ stream t, ev ≠ .wrote stream t) :
    F.Agree (Run.record ev) (Run.record ev) := .of_leads fun w _ => F.tells w ev h

theorem freshSerial : F.Agree Run.freshSerial Run.freshSerial := .of_leads fun w _ => F.counts w

theorem newRecorder : F.Agree Run.newRecorder Run.newRecorder :=
  .of_leads fun w _ => F.recorders w _ (by simp)

theorem setRecorder (r : Nat) (v : Value U) : F.Agree (Run.setRecorder r v) (Run.setRecorder r v) :=
  .of_leads fun w _ => F.recorders w _ (by simp)

theorem complain (sf : Surface U S) (c : Complaint) : F.Agree (Run.complain sf c : Run U S α) (Run.complain sf c) :=
  .of_leads fun w _ => F.outside w _

theorem scope (id : Nat) : F.Agree (Run.scope id) (Run.scope id) := by
  refine .of_leads fun w _ => ?_
  rw [Run.scope_apply]
  cases w.scope? id <;> exact F.refl w

theorem changeForest {change : Forest (Value U) → Forest (Value U)} {w : World U S} (hw : F.holds w)
    (h : w.forest.Declares (change w.forest)) : F.Same w (Run.changeForest change) (Run.changeForest change) :=
  .of_leads (F.declares hw h)

namespace Alike

variable {e e' : Engine U S} (a : F.Alike e e')
include a

theorem surface : e'.surface = e.surface := by
  unfold Engine.surface
  rw [a.host]

/-! ## Calls and computations of the specification's own -/

theorem call (f : Value U) (args : List (Value U)) : F.Agree (e.call f args) (e'.call f args) := by
  unfold Engine.call
  rw [a.host]
  split <;> exact a.run _

theorem callWith (f : Value U) (offered : List (Value U)) : F.Agree (e.callWith f offered) (e'.callWith f offered) := by
  unfold Engine.callWith
  rw [a.surface]
  exact .get fun w hw => a.call f _ w hw

theorem complain (c : Complaint) : F.Agree (e.complain c : Run U S α) (e'.complain c) := by
  unfold Engine.complain
  rw [a.surface]
  exact Frame.complain _ c

theorem raiseAgain (q : Bool) (err : Exn (Value U)) :
    F.Agree (e.raiseAgain q err : Run U S α) (e'.raiseAgain q err) := by
  have h : (e'.raiseAgain q err : Run U S α) = e.raiseAgain q err := by
    unfold Engine.raiseAgain Engine.complain
    rw [a.surface]
  rw [h]
  refine .of_leads fun w _ => ?_
  obtain ⟨err', s, hr⟩ : ∃ err' s, (e.raiseAgain q err : Run U S α) w = (.raised err', w.withOutside s) :=
    e.raiseAgain_raised q err w
  rw [hr]
  exact F.outside w s

theorem raiseFrom (f : Value U) (q : Bool) : F.Agree (e.raiseFrom f q : Run U S α) (e'.raiseFrom f q) := by
  rw [Engine.raiseFrom_eq, Engine.raiseFrom_eq]
  exact (a.call f []).attempt.bind fun r => a.raiseAgain q _

theorem step (x : Step U S α) : F.Agree (e.step x) (e'.step x) := by
  refine Agree.bind (.of_leads fun w _ => ?_) fun r => ?_
  · rw [Run.tryStep_apply]
    rcases x w.outside with ⟨_ | _ | _, s⟩ <;> exact F.outside w s
  · rcases r with (err | ⟨f, q⟩) | v
    · exact .raise err
    · exact a.raiseFrom f q
    · exact .pure v

theorem notice (n : Step U S Notice) : F.Agree (e.notice n) (e'.notice n) := by
  refine .get fun w hw => .ite ?_ (Agree.pure () w hw)
  exact (a.step n).bind (fun m => record (by simp)) w hw

/-! ## Values of helpers -/

theorem defaultSubject (v : Value U) : F.Agree (e.defaultSubject v) (e'.defaultSubject v) := by
  unfold Engine.defaultSubject
  rw [a.surface]
  exact .get fun w hw => .ite (a.call v [] w hw) (Agree.pure v w hw)

theorem produce (c : OuterCall (Value U)) : F.Agree (e.produce c) (e'.produce c) := by
  unfold Engine.produce
  split
  · exact a.callWith _ _
  · exact a.defaultSubject _

theorem callOuter (c : OuterCall (Value U)) : F.Agree (e.callOuter c) (e'.callOuter c) := by
  unfold Engine.callOuter
  rw [a.surface]
  split
  · exact freshSerial.bind fun serial => a.produce _
  · exact (Frame.scope _).bind fun scope => .get fun w hw => a.step _ w hw

theorem raiseUndefined (s : Scope (Value U)) (name : HelperName (Value U)) :
    F.Agree (e.raiseUndefined s name) (e'.raiseUndefined s name) := by
  unfold Engine.raiseUndefined
  rw [a.surface]
  exact .get fun w hw => a.step _ w hw

theorem raiseCircular (s : Scope (Value U)) (path : List (HelperName (Value U))) (name : HelperName (Value U)) :
    F.Agree (e.raiseCircular s path name) (e'.raiseCircular s path name) := by
  unfold Engine.raiseCircular
  rw [a.surface]
  exact .get fun w hw => a.step _ w hw

omit a in
/-- The name of a helper stands among those being computed while its definition runs, and no longer. -/
theorem computing {w : World U S} {id : Nat} {s : Scope (Value U)} {name : HelperName (Value U)}
    {x y : Run U S (Value U)} {k k' : Value U → Run U S β} (hw : F.holds w) (hs : w.scope? id = some s)
    (hk : s.kept? name = none) (hp : s.pathFrom? name = none) (hd : w.forest.Defines s.owner.group name)
    (hx : F.Agree x y) (hkk : ∀ v, F.Agree (k v) (k' v)) :
    F.Same w
      (Engine.whileComputing id name x >>= fun v =>
        Run.changeScope id (fun s => { s with memo := s.memo ++ [(name, v)] }) >>= fun _ => k v)
      (Engine.whileComputing id name y >>= fun v =>
        Run.changeScope id (fun s => { s with memo := s.memo ++ [(name, v)] }) >>= fun _ => k' v) := by
  obtain ⟨he, hlater⟩ := F.computes hw hs hk hp hd
  obtain ⟨hxy, hl⟩ := hx _ he
  obtain ⟨hleave, hkeep⟩ := hlater _ hl
  unfold Same
  rw [Engine.computing_apply, Engine.computing_apply, ← hxy]
  clear hl hxy
  rcases hr : x (w.enter id name) with ⟨v | err | _, w'⟩ <;> rw [hr] at hleave hkeep
  · obtain ⟨hke, hkl⟩ := hkk v ((w'.leave id).keep id name v) (F.stays hw (hkeep v))
    exact ⟨hke, F.trans (hkeep v) hkl⟩
  · exact ⟨rfl, hleave⟩
  · exact ⟨rfl, hleave⟩

theorem compute {w : World U S} {id : Nat} {s : Scope (Value U)} {name : HelperName (Value U)} (hw : F.holds w)
    (hs : w.scope? id = some s) (hk : s.kept? name = none) (hp : s.pathFrom? name = none) :
    F.Same w (e.compute id s name) (e'.compute id s name) := by
  unfold Engine.compute
  rw [a.surface]
  refine Same.get (Same.bind hw (a.step _ w hw) fun ds w₁ h₁ hw₁ => ?_)
  obtain ⟨t, ht, rfl⟩ := e.step_done h₁
  split
  · exact a.raiseUndefined s name _ hw₁
  next d outward hds =>
    refine Same.bind hw₁ (freshSerial _ hw₁) fun serial w₂ h₂ hw₂ => ?_
    obtain rfl : w₂ = (w.withOutside t).counted := (congrArg Prod.snd h₂).symm
    refine computing hw₂ hs hk hp ?_ (a.produce _) fun v => (a.notice _).bind fun _ => .pure v
    exact e.surface.defines_of_definitionsFor ht (by rintro rfl; simp at hds)

theorem lookupName (id : Nat) (name : HelperName (Value U)) :
    F.Agree (e.lookupName id name) (e'.lookupName id name) := by
  intro w hw
  refine Same.bind hw (Frame.scope id w hw) fun s w₁ h₁ hw₁ => ?_
  obtain ⟨hs, rfl⟩ := Run.scope_done h₁
  cases hk : s.kept? name with
  | some v => exact Agree.pure v _ hw
  | none =>
    cases hp : s.pathFrom? name with
    | some path => exact a.raiseCircular s path name _ hw
    | none => exact a.compute hw hs hk hp

theorem lookup (id : Nat) (name : Value U) : F.Agree (e.lookup id name) (e'.lookup id name) := by
  unfold Engine.lookup
  rw [a.surface]
  exact (a.step _).bind fun n => a.lookupName id n

theorem describedTarget (id : Nat) : F.Agree (e.describedTarget id) (e'.describedTarget id) := by
  unfold Engine.describedTarget
  rw [a.surface]
  refine (Frame.scope id).bind fun s => .get fun w hw => ?_
  cases w.forest.target? s.owner.group with
  | some v => exact Agree.pure v w hw
  | none => exact a.step _ w hw

theorem access (id : Nat) (name : String) : F.Agree (e.access id name) (e'.access id name) := by
  unfold Engine.access
  split
  · exact (a.describedTarget id).bind fun v => .pure _
  · exact .pure _
  · split
    · exact a.complain _
    · exact (a.lookup id _).bind fun v => .pure _

/-! ## Declarations -/

theorem ensureOpen (g : Nat) : F.Agree (e.ensureOpen g) (e'.ensureOpen g) := by
  unfold Engine.ensureOpen
  rw [a.surface]
  exact .get fun w hw => .ite (((a.step _).bind fun path => .raise _) w hw) (Agree.pure () w hw)

theorem openChild (g : Nat) (description : Value U) :
    F.Agree (e.openChild g description) (e'.openChild g description) := by
  intro w hw
  refine Same.bind hw (a.ensureOpen g w hw) fun _ w₁ h₁ hw₁ => ?_
  obtain ⟨ho, rfl⟩ := e.ensureOpen_done h₁
  refine Same.get (Same.bind hw₁ (changeForest hw₁ (.child g description ho)) fun _ w₂ _ hw₂ => ?_)
  exact Agree.pure _ w₂ hw₂

theorem addExample (g : Nat) (description : Value U) (body : Option (Value U)) (message : Value U) :
    F.Agree (e.addExample g description body message) (e'.addExample g description body message) := by
  intro w hw
  refine Same.bind hw (a.ensureOpen g w hw) fun _ w₁ h₁ hw₁ => ?_
  obtain ⟨ho, rfl⟩ := e.ensureOpen_done h₁
  let x : Example (Value U) := ⟨description, g, (w₁.forest.entries g).length, body, message⟩
  refine Same.get (Same.bind hw₁ (changeForest hw₁ (.example x ho rfl)) fun _ w₂ _ hw₂ => ?_)
  exact Agree.pure _ w₂ hw₂

theorem define (g : Nat) (name producer : Value U) :
    F.Agree (e.define g name producer) (e'.define g name producer) := by
  intro w hw
  unfold Engine.define
  rw [a.surface]
  refine Same.bind hw (a.ensureOpen g w hw) fun _ w₁ h₁ hw₁ => ?_
  obtain ⟨ho, rfl⟩ := e.ensureOpen_done h₁
  refine Same.get (Same.bind hw₁ (a.step _ _ hw₁) fun path w₂ h₂ hw₂ => ?_)
  obtain ⟨t, -, rfl⟩ := e.step_done h₂
  refine Same.bind hw₂ (a.step _ _ hw₂) fun n w₃ h₃ hw₃ => ?_
  obtain ⟨t', -, rfl⟩ := e.step_done h₃
  refine Same.bind hw₃ (changeForest hw₃ (.define g _ ho)) fun _ w₄ _ hw₄ => ?_
  exact Agree.pure _ w₄ hw₄

theorem populate (g : Nat) (block : Value U) : F.Agree (e.populate g block) (e'.populate g block) := by
  unfold Engine.populate
  rw [a.surface]
  refine Agree.bind (.ensure ((a.callWith _ _).bind fun _ => .pure ()) fun w hw => F.declares hw (.close g)) fun _ => ?_
  exact .get fun w hw => ((a.step _).bind fun path => a.notice _) w hw

theorem declare (g : Nat) (d : Declaration (Value U)) : F.Agree (e.declare g d) (e'.declare g d) := by
  cases d with
  | group description block =>
    rw [Engine.declare, Engine.declare]
    split
    · exact .pure ()
    · exact (a.openChild g description).bind fun child => a.populate child block
  | helper name producer =>
    rw [Engine.declare, Engine.declare, a.surface]
    refine (a.step _).bind fun _ => ?_
    split
    · exact .pure ()
    · exact (a.define g name producer).bind fun _ => .get fun w hw => a.notice _ w hw
  | «example» description body =>
    rw [Engine.declare, Engine.declare]
    unfold Engine.exampleParts
    rw [a.surface]
    refine .get fun w hw => ?_
    split
    split
    · exact ((a.addExample g _ _ _).bind fun _ => .pure ()) w hw
    · exact ((a.addExample g _ _ _).bind fun _ => .pure ()) w hw
  | pending message => exact (a.addExample g _ _ _).bind fun _ => .pure ()
  | define name producer => exact (a.define g name producer).bind fun _ => .pure ()
  | close => exact .of_leads fun w hw => F.declares hw (.close g)

/-! ## Expectations -/

theorem isWithin (delta centre actual : Value U) :
    e'.isWithin delta centre actual = e.isWithin delta centre actual := by
  unfold Engine.isWithin
  rw [a.surface]

theorem messageAgrees (err message : Value U) : e'.messageAgrees err message = e.messageAgrees err message := by
  unfold Engine.messageAgrees
  rw [a.surface]

theorem containsAll (container : Value U) (items : List (Value U)) :
    F.Agree (e.containsAll container items) (e'.containsAll container items) := by
  induction items with
  | nil => exact .pure true
  | cons item r ih =>
    unfold Engine.containsAll
    rw [a.host]
    refine (a.run _).bind fun b => ?_
    split
    · exact ih
    · exact .pure false

theorem raisesExpected (r : Nat) (expected message block : Value U) :
    F.Agree (e.raisesExpected r expected message block) (e'.raisesExpected r expected message block) := by
  unfold Engine.raisesExpected
  rw [a.surface]
  refine .get fun w hw => .ite (a.complain _ w hw) ?_
  refine ((setRecorder r _).bind fun _ => (a.call block []).attempt.bind fun res => ?_) w hw
  rcases res with (_ | _ | _ | _ | err) | v
  case error.thrown =>
    refine .get fun w hw => .ite (Agree.raise _ w hw) (((a.step _).bind fun caught => ?_) w hw)
    rw [a.messageAgrees]
    split
    · exact (setRecorder r _).bind fun _ => a.step _
    · exact .raise _
  case ok => exact .pure false
  all_goals exact .raise _

theorem matchActual (m : Matcher (Value U)) (actual : Value U) :
    F.Agree (e.matchActual m actual) (e'.matchActual m actual) := by
  unfold Engine.matchActual
  rw [a.surface, a.host]
  split
  · exact (a.step _).bind fun b => .pure _
  · exact .get fun w hw => Agree.pure _ w hw
  · exact (a.step _).bind fun b => .pure _
  · rw [a.isWithin]
    exact (a.step _).bind fun b => .pure _
  · exact (a.containsAll actual _).bind fun b => .pure _
  · exact .get fun w hw => Agree.pure _ w hw
  · exact (a.call _ _).bind fun v => .get fun w hw => Agree.pure _ w hw
  · exact (a.raisesExpected _ _ _ _).bind fun b => .pure _
  · exact a.run _

theorem wantsBlock (m : Matcher (Value U)) : F.Agree (e.wantsBlock m) (e'.wantsBlock m) := by
  unfold Engine.wantsBlock
  rw [a.surface, a.host]
  split
  · exact (a.run _).bind fun t => .get fun w hw => Agree.pure _ w hw
  · exact .pure _

theorem observed (m : Matcher (Value U)) : F.Agree (e.observed m) (e'.observed m) := by
  unfold Engine.observed
  rw [a.host]
  split
  · exact (a.run _).bind fun t => .pure _
  · exact .gets _
  · exact .pure _

theorem judge (source : Source (Value U)) (m : Matcher (Value U)) : F.Agree (e.judge source m) (e'.judge source m) := by
  unfold Engine.judge
  split
  · exact (a.matchActual m _).attempt.bind fun r => .pure _
  · refine (a.wantsBlock m).attempt.bind fun r => ?_
    rcases r with err | _ | _
    · exact .pure _
    · refine (a.call _ []).attempt.bind fun r => ?_
      rcases r with err | v
      · exact .pure _
      · exact (a.matchActual m v).attempt.bind fun r => .pure _
    · refine Agree.bind (.attempt ((a.matchActual m _).bind fun _ => (a.observed m).bind fun _ => .pure _)) fun r => ?_
      rcases r with err | ⟨actual, matched⟩
      · exact .pure _
      · exact .pure _

theorem evaluate (source : Source (Value U)) (negate : Bool) (m : Matcher (Value U)) :
    F.Agree (e.evaluate source negate m) (e'.evaluate source negate m) := by
  unfold Engine.evaluate
  rw [a.surface]
  refine (a.judge source m).bind fun ⟨actual, answer⟩ => .get fun w hw => ?_
  rcases answer with (_ | _ | _ | _ | err) | v
  case error.thrown => exact .ite (Agree.pure _ w hw) (Agree.raise _ w hw)
  case ok => exact Agree.pure _ w hw
  all_goals exact Agree.raise _ w hw

theorem evaluateBy (ev : Evaluator (Value U)) (source : Source (Value U)) (negate : Bool) (m : Matcher (Value U)) :
    F.Agree (e.evaluateBy ev source negate m) (e'.evaluateBy ev source negate m) := by
  unfold Engine.evaluateBy
  rw [a.host]
  split
  · exact a.evaluate source negate m
  · exact a.run _

/-! ## Verdicts in words -/

theorem describeMatcher (m : Matcher (Value U)) : F.Agree (e.describeMatcher m) (e'.describeMatcher m) := by
  unfold Engine.describeMatcher
  rw [a.surface, a.host]
  split
  · refine (a.run _).bind fun t => .get fun w hw => ?_
    split
    · exact Agree.pure _ w hw
    · exact a.step _ w hw
  · exact a.step _

theorem summary (v : Verdict (Value U)) : F.Agree (e.summary v) (e'.summary v) := by
  unfold Engine.summary
  rw [a.surface]
  exact (a.step _).bind fun actual => (a.describeMatcher _).bind fun wanted => .pure _

theorem raisesMessage (r : Nat) (m : Matcher (Value U)) (negate : Bool) :
    F.Agree (e.raisesMessage r m negate) (e'.raisesMessage r m negate) := by
  unfold Engine.raisesMessage
  rw [a.surface]
  refine (a.step _).bind fun wanted => (Agree.gets _).bind fun err => ?_
  split
  · exact .pure _
  · exact (a.step _).bind fun text => .pure _

theorem failureText (m : Matcher (Value U)) (negate : Bool) (actual : Value U) :
    F.Agree (e.failureText m negate actual) (e'.failureText m negate actual) := by
  unfold Engine.failureText
  rw [a.surface, a.host]
  split
  · refine (a.run _).bind fun t => ?_
    rcases t with _ | f
    · exact .pure none
    · exact .get fun w hw => .ite (((a.call f _).bind fun text => .pure _) w hw) (Agree.pure none w hw)
  · exact (a.raisesMessage _ m negate).bind fun text => .pure _
  · exact (a.summary _).bind fun text => .pure _

theorem message (v : Verdict (Value U)) : F.Agree (e.message v) (e'.message v) := by
  unfold Engine.message
  rw [a.surface]
  split
  · exact (a.step _).bind fun text => .pure _
  · have hsummary := (a.summary v).bind fun text => Agree.pure (F := F) (Value.text (U := U) text)
    split
    · refine (Agree.pure none).bind fun own => ?_
      cases own with
      | some text => exact .pure text
      | none => exact hsummary
    · refine (a.failureText _ _ _).bind fun own => ?_
      cases own with
      | some text => exact .pure text
      | none => exact hsummary

theorem require (t : Target (Value U)) (negate : Bool) (m : Matcher (Value U)) :
    F.Agree (e.require t negate m) (e'.require t negate m) := by
  unfold Engine.require
  rw [a.surface]
  refine (a.evaluateBy t.evaluator t.source negate m).bind fun v => ?_
  cases hf : v.fault with
  | some err => exact (a.step _).bind fun text => .raise _
  | none =>
    dsimp only
    split
    next hv =>
      split
      · exact (Agree.of_leads fun w _ => F.succeeds w _ v hv hf).bind fun _ => .pure v
      · exact (Agree.pure ()).bind fun _ => .pure v
    · exact (a.message v).bind fun text => .raise _

/-! ## Requests -/

theorem answerCall (f : Value U) (args : List (Value U)) : F.Agree (e.answerCall f args) (e'.answerCall f args) := by
  unfold Engine.answerCall
  rw [a.surface, a.host]
  split
  · exact a.run _
  · split
    · exact a.callOuter _
    · exact a.complain _
  · split
    · exact a.lookupName _ _
    · exact a.complain _
  · exact .get fun w hw => a.complain _ w hw

/-- Every request keeps to the frame. -/
theorem perform (r : Request U S α) : F.Agree (e.perform r) (e'.perform r) := by
  cases r with
  | step x => exact a.step x
  | observe f => exact .gets f
  | note vs => exact record (by simp)
  | call f args => exact a.answerCall f args
  | lookup id name => exact a.lookup id name
  | access id name => exact a.access id name
  | describedTarget id => exact a.describedTarget id
  | evaluate source negate m => exact a.evaluate source negate m
  | require t negate m => exact a.require t negate m
  | message v => exact a.message v
  | summary v => exact a.summary v
  | declare g d => exact a.declare g d
  | recorder => exact newRecorder
  | serial => exact freshSerial

/-! ## Examples -/

theorem makeOutcome (tag : Tag) (description diagnostic : Value U) :
    F.Agree (e.makeOutcome tag description diagnostic) (e'.makeOutcome tag description diagnostic) := by
  unfold Engine.makeOutcome
  rw [a.surface]
  refine .get fun w hw => ?_
  split
  · exact Agree.pure _ w hw
  · exact a.complain _ w hw

theorem noticeOf (display : Value U) (n : String → Notice) :
    F.Agree (e.noticeOf display n) (e'.noticeOf display n) := by
  unfold Engine.noticeOf
  rw [a.surface]
  exact a.notice _

theorem finish (tag : Tag) (display diagnostic : Value U) :
    F.Agree (e.finish tag display diagnostic) (e'.finish tag display diagnostic) :=
  (a.noticeOf display _).bind fun _ => a.makeOutcome tag display diagnostic

theorem conclude (display : Value U) (err : Exn (Value U)) :
    F.Agree (e.conclude display err) (e'.conclude display err) := by
  unfold Engine.conclude
  rw [a.surface]
  refine .get fun w hw => ?_
  split
  · exact Agree.raise _ w hw
  · exact Agree.raise _ w hw
  · exact ((a.step _).bind fun text => a.finish _ _ _) w hw
  · exact ((a.step _).bind fun text => a.finish _ _ _) w hw
  all_goals
    split
    · exact ((a.step _).bind fun text => a.finish _ _ _) w hw
    · exact Agree.raise _ w hw

theorem succeed (id : Nat) (display : Value U) : F.Agree (e.succeed id display) (e'.succeed id display) := by
  refine (Frame.scope id).bind fun s => ?_
  split
  · exact (a.summary _).bind fun text => a.finish _ _ _
  · exact a.finish _ _ _

theorem skip (x : Example (Value U)) (display : Value U) : F.Agree (e.skip x display) (e'.skip x display) := by
  unfold Engine.skip
  rw [a.surface]
  exact (a.noticeOf display _).bind fun _ => .get fun w hw => a.makeOutcome _ _ _ w hw

/-- A whole example keeps to the frame. -/
theorem runExample (ev : Evaluator (Value U)) (x : Example (Value U)) :
    F.Agree (e.runExample ev x) (e'.runExample ev x) := by
  unfold Engine.runExample
  rw [a.surface]
  refine .get fun w hw => ((a.step _).bind fun display => ?_) w hw
  cases x.body with
  | none => exact a.skip x display
  | some body =>
    refine (Agree.of_leads fun w _ => F.opens w x ev).bind fun id => ?_
    refine (a.noticeOf display _).bind fun _ => (a.callWith body _).attempt.bind fun r => ?_
    rcases r with err | v
    · exact a.conclude display err
    · exact a.succeed id display

/-! ## Trees and runs -/

theorem addRoot (o : F.Open) (description : Value U) : F.Agree (e.addRoot description) (e'.addRoot description) := by
  unfold Engine.addRoot
  rw [a.surface]
  exact .get fun w hw => ((Agree.of_leads fun w _ => o.roots w _ _).bind fun _ => .pure _) w hw

theorem buildGroup (o : F.Open) (description block : Value U) :
    F.Agree (e.buildGroup description block) (e'.buildGroup description block) := by
  refine (a.addRoot o description).bind fun root => ?_
  split
  · exact (Agree.of_leads fun w hw => F.declares hw (.close root)).bind fun _ => .pure root
  · exact (a.populate root block).bind fun _ => .pure root

theorem runFrom (o : F.Open) (r : Reporting) {runOne runOne' : Example (Value U) → Run U S Outcome}
    (hone : ∀ x, F.Agree (runOne x) (runOne' x)) (root n : Nat) (c : Forest.Cursor) (y : Tally) :
    F.Agree (e.runFrom r runOne root n c y) (e'.runFrom r runOne' root n c y) := by
  induction n generalizing c y with
  | zero => exact .of_leads fun w _ => F.refl w
  | succ n ih =>
    unfold Engine.runFrom
    rw [a.surface]
    refine .get fun w hw => ?_
    split
    · exact Agree.pure y w hw
    · refine ((hone _).bind fun out => Agree.bind (.of_leads fun w _ => o.writes w _ _) fun _ => ?_) w hw
      split
      · exact .get fun w hw => ((a.step _).bind fun text => (a.notice _).bind fun _ => .pure _) w hw
      · exact ih _ _

theorem runOrExit (o : F.Open) (r : Reporting) (ev : Evaluator (Value U)) (limit root : Nat) :
    F.Agree (e.runOrExit r ev limit root) (e'.runOrExit r ev limit root) := by
  refine (a.runFrom o r (a.runExample ev) root limit _ _).bind fun y => ?_
  split
  · exact .raise _
  · exact .pure y

theorem describe (o : F.Open) (r : Reporting) (ev : Evaluator (Value U)) (limit : Nat) (description block : Value U) :
    F.Agree (e.describe r ev limit description block) (e'.describe r ev limit description block) := by
  unfold Engine.describe
  split
  · exact .pure none
  · exact (a.buildGroup o description block).bind fun root => (a.runOrExit o r ev limit root).bind fun y => .pure _

theorem context (o : F.Open) (r : Reporting) (ev : Evaluator (Value U)) (limit : Nat) (description block : Value U) :
    F.Agree (e.context r ev limit description block) (e'.context r ev limit description block) := by
  unfold Engine.context
  rw [a.surface]
  split
  · exact .pure none
  · exact (a.step _).bind fun text => a.describe o r ev limit _ block

theorem runAlone (o : F.Open) (r : Reporting) (ev : Evaluator (Value U)) (limit : Nat) (d : Declaration (Value U)) :
    F.Agree (e.runAlone r ev limit d) (e'.runAlone r ev limit d) := by
  unfold Engine.runAlone
  rw [a.surface]
  refine (a.addRoot o _).bind fun root => ?_
  refine Agree.bind (.ensure (a.declare root d) fun w hw => F.declares hw (.close root)) fun _ => ?_
  exact .get fun w hw => ((a.step _).bind fun path => (a.notice _).bind fun _ => a.runOrExit o r ev limit root) w hw

end Alike
end Frame

/-! ## Programs -/

/-- Does `x`, and `alarm` instead where the world before it fails the check, or the world after it compared with the
one before. -/
def Run.watch (ok : World U S → World U S → Bool) (alarm : {γ : Type} → Run U S γ) (x : Run U S α) : Run U S α :=
  fun w =>
  if ok w w then
    let (r, w') := x w
    if ok w w' then (r, w') else alarm w'
  else alarm w

/-- Runs a program as `Host.exec` does, each program and each request that is made on the way being watched. -/
def Host.watched (h : Host U S) (ok : World U S → World U S → Bool) (alarm : {γ : Type} → Run U S γ) :
    Nat → {α : Type} → Program U S α → Run U S α
  | 0, _, _ => Run.watch ok alarm (Run.complain h.toSurface .tooDeep)
  | n + 1, _, p => Run.watch ok alarm
      (p.interp fun r => Run.watch ok alarm (Engine.perform ⟨h, h.watched ok alarm n⟩ r))

namespace Frame

variable {F : Frame U S}

/-- Programs keep to a frame to which all their requests keep. -/
theorem Agree.interp {perform perform' : {γ : Type} → Request U S γ → Run U S γ}
    (hp : ∀ {γ : Type} (r : Request U S γ), F.Agree (perform r) (perform' r)) (p : Program U S α) :
    F.Agree (p.interp perform) (p.interp perform') := by
  induction p with
  | pure a => exact .pure a
  | bind p k ihp ihk => exact ihp.bind ihk
  | raise err => exact .raise err
  | attempt p ih => exact ih.attempt
  | ask r => exact hp r

/-- A check that the frame vouches for lets everything pass. -/
theorem Agree.watch {ok : World U S → World U S → Bool} {alarm : {γ : Type} → Run U S γ}
    (hok : ∀ w w', F.holds w → F.leads w w' → ok w w' = true) {x y : Run U S α} (h : F.Agree x y) :
    F.Agree x (Run.watch ok alarm y) := by
  intro w hw
  obtain ⟨he, hl⟩ := h w hw
  refine ⟨?_, hl⟩
  unfold Run.watch
  rw [if_pos (hok w w hw (F.refl w)), ← he]
  exact (if_pos (hok w _ hw hl)).symm

/-- A program does the same whether or not it is watched by a check that the frame vouches for. -/
theorem watched_agree (h : Host U S) (ok : World U S → World U S → Bool) (alarm : {γ : Type} → Run U S γ)
    (hok : ∀ w w', F.holds w → F.leads w w' → ok w w' = true) (n : Nat) :
    ∀ {α : Type} (p : Program U S α), F.Agree (h.exec n p) (h.watched ok alarm n p) := by
  induction n with
  | zero => exact fun p => (complain _ _).watch hok
  | succ n ih =>
    intro α p
    have a : F.Alike (h.engine n) ⟨h, h.watched ok alarm n⟩ := ⟨rfl, ih⟩
    exact (Agree.interp (fun r => (a.perform r).watch hok) p).watch hok

theorem alike_watched (h : Host U S) (ok : World U S → World U S → Bool) (alarm : {γ : Type} → Run U S γ)
    (hok : ∀ w w', F.holds w → F.leads w w' → ok w w' = true) (n : Nat) :
    F.Alike (h.engine n) ⟨h, h.watched ok alarm n⟩ :=
  ⟨rfl, fun p => watched_agree h ok alarm hok n p⟩

/-- An engine that runs its programs in levels is like itself: all it does keeps to the frame. -/
theorem alike_engine (F : Frame U S) (h : Host U S) (n : Nat) : F.Alike (h.engine n) (h.engine n) := by
  exact ⟨rfl, fun p w hw => .of_leads
    (watched_agree h (fun _ _ => true) Action.exhausted (fun _ _ _ _ => rfl) n p w hw).2⟩

/-- Every program keeps to the frame. -/
theorem exec_keeps (F : Frame U S) (h : Host U S) (n : Nat) (p : Program U S α) {w : World U S} (hw : F.holds w) :
    F.leads w (h.exec n p w).2 :=
  ((F.alike_engine h n).run p w hw).2

end Frame

/-! ## Worlds that can be reached -/

/-- The worlds in which one can find oneself between two things that the library is asked to do from outside: trees
are declared and run, single examples are run or their scopes just opened, and programs are run. -/
inductive Host.Reached (h : Host U S) : World U S → Prop
  | initial (s : S) (verbose : Bool) : h.Reached (.initial s verbose)
  | declare (n : Nat) (description block : Value U) {w : World U S} : h.Reached w →
    h.Reached ((h.engine n).buildGroup description block w).2
  | run (n : Nat) (r : Reporting) (ev : Evaluator (Value U)) (limit root : Nat) {w : World U S} : h.Reached w →
    h.Reached ((h.engine n).runOrExit r ev limit root w).2
  | alone (n : Nat) (r : Reporting) (ev : Evaluator (Value U)) (limit : Nat) (d : Declaration (Value U))
    {w : World U S} : h.Reached w → h.Reached ((h.engine n).runAlone r ev limit d w).2
  | single (n : Nat) (ev : Evaluator (Value U)) (x : Example (Value U)) {w : World U S} : h.Reached w →
    h.Reached ((h.engine n).runExample ev x w).2
  | scope (ev : Evaluator (Value U)) (x : Example (Value U)) {w : World U S} : h.Reached w → h.Reached (w.opened x ev)
  | program (n : Nat) {α : Type} (p : Program U S α) {w : World U S} : h.Reached w → h.Reached (h.exec n p w).2

/-- What holds at first and is kept holds of every world that can be reached. -/
theorem Frame.holds_of_reached (F : Frame U S) (o : F.Open) (hi : ∀ s verbose, F.holds (.initial s verbose))
    {h : Host U S} {w : World U S} (hw : h.Reached w) : F.holds w := by
  induction hw with
  | initial s verbose => exact hi s verbose
  | declare n description block _ ih => exact F.stays ih ((F.alike_engine h n).buildGroup o description block _ ih).2
  | run n r ev limit root _ ih => exact F.stays ih ((F.alike_engine h n).runOrExit o r ev limit root _ ih).2
  | alone n r ev limit d _ ih => exact F.stays ih ((F.alike_engine h n).runAlone o r ev limit d _ ih).2
  | single n ev x _ ih => exact F.stays ih ((F.alike_engine h n).runExample ev x _ ih).2
  | scope ev x _ ih => exact F.stays ih (F.opens _ x ev)
  | program n p _ ih => exact F.stays ih (F.exec_keeps h n p ih)
end Exemplar

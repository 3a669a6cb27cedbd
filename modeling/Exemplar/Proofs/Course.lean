import Exemplar.Proofs.Aside
import Exemplar.Proofs.Bodies

/-!
# Exemplar.Proofs.Course — how a run goes on with something beside its state

A course says how a world may go on that has something beside its state: in any way that touches neither that nor the
successes of the scopes, and beyond this as it likes. Every operation of the library keeps to it if the code of the
specification does, but for the demand itself, which records a success. There is one law per operation.

* `Course.Keeps`: an action keeps to the course, with one law per way of composing actions.
* `Course.Serves`: an engine for code that cannot touch what stands beside its state.
* `Course.Serves.evaluateBy`, `Course.Serves.runExample`, `Course.Serves.runOrExit`: a judgement, a whole example and
  the run of a tree keep to the course.
-/

namespace Exemplar

variable {U S L α β : Type}

/-! ## Successes -/

namespace World

theorem successes_updateScope (w : World U S) (id : Nat) {change : Scope (Value U) → Scope (Value U)}
    (h : ∀ s, (change s).successes = s.successes) (i : Nat) :
    (w.updateScope id change).successes i = w.successes i := by
  unfold successes
  rw [scope?_updateScope]
  split
  · cases w.scope? i with
    | none => rfl
    | some s => exact h s
  · rfl

/-- A scope begins without successes. -/
theorem successes_opened (w : World U S) (x : Example (Value U)) (ev : Evaluator (Value U)) (i : Nat) :
    (w.opened x ev).successes i = w.successes i := by
  unfold successes
  rw [scope?_opened]
  split
  next hi =>
    have hnone : w.scope? i = none := by
      subst hi
      simp [scope?]
    rw [hnone]
    rfl
  next => rfl

end World

/-! ## Courses -/

/-- How a world may go on that has something beside its state. -/
structure Course (U S L : Type) where
  /-- The second world may come after the first. -/
  leads : World U (S × L) → World U (S × L) → Prop
  trans {w₁ w₂ w₃ : World U (S × L)} : leads w₁ w₂ → leads w₂ w₃ → leads w₁ w₃
  still {w w' : World U (S × L)} : w'.outside.2 = w.outside.2 → (∀ id, w'.successes id = w.successes id) →
    leads w w'

namespace Course

variable (C : Course U S L)

theorem refl (w : World U (S × L)) : C.leads w w := C.still rfl fun _ => rfl

/-- Whatever the world, the action keeps to the course. -/
def Keeps (x : Run U (S × L) α) : Prop := ∀ w, C.leads w (x w).2

/-- An engine for the code of a host, which can touch nothing but its state and keeps to the course. -/
structure Serves (h : Host U S) (e : Engine U (S × L)) : Prop where
  host : e.host = h.beside
  run {α : Type} (p : Program U S α) : C.Keeps (e.run p.beside)

variable {C}

namespace Keeps

theorem pure (a : α) : C.Keeps (Pure.pure a) := fun w => C.refl w

theorem raise (err : Exn (Value U)) : C.Keeps (Action.raise err : Run U (S × L) α) := fun w => C.refl w

theorem exhausted : C.Keeps (Action.exhausted : Run U (S × L) α) := fun w => C.refl w

theorem gets (f : World U (S × L) → α) : C.Keeps (Action.gets f) := fun w => C.refl w

theorem get {f : World U (S × L) → Run U (S × L) α} (h : ∀ w, C.Keeps (f w)) : C.Keeps (Action.get >>= f) :=
  fun w => h w w

theorem modify {f : World U (S × L) → World U (S × L)} (h : ∀ w, C.leads w (f w)) : C.Keeps (Action.modify f) := h

theorem bind {x : Run U (S × L) α} {f : α → Run U (S × L) β} (h : C.Keeps x) (hf : ∀ a, C.Keeps (f a)) :
    C.Keeps (x >>= f) := by
  intro w
  have hx := h w
  rw [Action.bind_apply]
  rcases hr : x w with ⟨a | err | _, w'⟩
  all_goals rw [hr] at hx
  · exact C.trans hx (hf a w')
  · exact hx
  · exact hx

theorem attempt {x : Run U (S × L) α} (h : C.Keeps x) : C.Keeps (Action.attempt x) := by
  intro w
  have hx := h w
  rw [Action.attempt_apply]
  rcases hr : x w with ⟨a | err | _, w'⟩
  all_goals
    rw [hr] at hx
    exact hx

theorem ensure {x : Run U (S × L) α} {after : World U (S × L) → World U (S × L)} (h : C.Keeps x)
    (ha : ∀ w, C.leads w (after w)) : C.Keeps (Action.ensure x after) :=
  fun w => C.trans (h w) (ha _)

theorem ite {c : Prop} [Decidable c] {x y : Run U (S × L) α} (h : C.Keeps x) (h' : C.Keeps y) :
    C.Keeps (if c then x else y) := by
  split
  · exact h
  · exact h'

end Keeps

/-- Programs keep to the course if the requests they can make do. -/
theorem Keeps.interp {perform : {γ : Type} → Request U (S × L) γ → Run U (S × L) γ}
    (hp : ∀ {γ : Type} (r : Request U S γ), C.Keeps (perform r.beside)) (p : Program U S α) :
    C.Keeps (p.beside.interp perform) := by
  induction p with
  | pure a => exact .pure a
  | bind p k ihp ihk => exact ihp.bind ihk
  | raise err => exact .raise err
  | attempt p ih => exact ih.attempt
  | ask r => exact hp r

/-! ## Small operations -/

theorem record (ev : Event (Value U)) : C.Keeps (Run.record ev) := fun _ => C.still rfl fun _ => rfl

theorem freshSerial : C.Keeps Run.freshSerial := fun _ => C.still rfl fun _ => rfl

theorem newRecorder : C.Keeps Run.newRecorder := fun _ => C.still rfl fun _ => rfl

theorem setRecorder (r : Nat) (v : Value U) : C.Keeps (Run.setRecorder r v) := fun _ => C.still rfl fun _ => rfl

theorem changeForest (change : Forest (Value U) → Forest (Value U)) : C.Keeps (Run.changeForest change) :=
  fun _ => C.still rfl fun _ => rfl

theorem changeScope (id : Nat) {change : Scope (Value U) → Scope (Value U)}
    (h : ∀ s, (change s).successes = s.successes) : C.Keeps (Run.changeScope id change) :=
  fun w => C.still rfl (w.successes_updateScope id h)

theorem openScope (x : Example (Value U)) (ev : Evaluator (Value U)) : C.Keeps (Engine.openScope x ev) :=
  fun w => C.still rfl (w.successes_opened x ev)

theorem scope (id : Nat) : C.Keeps (Run.scope id) := by
  refine .get fun w => ?_
  split
  · exact .pure _
  · exact .exhausted

/-- A misuse is answered by what goes in step with a side that knows nothing of what stands beside the state. -/
theorem refuse {sf : Surface U S} {sf' : Surface U (S × L)} (a : Surface.Like (Twin.kept U S L) sf sf')
    (c : Complaint) : C.Keeps (Run.complain sf' c : Run U (S × L) α) := by
  intro w
  have htie : (Twin.kept U S L).tie w.outside.2 w.outside.1 w.outside := rfl
  obtain ⟨-, hs⟩ := a.complaint c htie
  refine C.still ?_ fun _ => rfl
  show (sf'.complaint c w.outside).2.2 = w.outside.2
  rw [hs]

theorem whileComputing (id : Nat) (name : HelperName (Value U)) {x : Run U (S × L) α} (h : C.Keeps x) :
    C.Keeps (Engine.whileComputing id name x) := by
  refine (changeScope id ?_).bind fun _ => h.ensure fun w => C.still rfl (w.successes_updateScope id ?_)
  · exact fun _ => rfl
  · exact fun _ => rfl

namespace Serves

variable {h : Host U S} {e : Engine U (S × L)} (a : C.Serves h e)
include a

theorem surface : Surface.Like (Twin.kept U S L) h.toSurface e.surface := by
  unfold Engine.surface
  rw [a.host]
  exact Twin.aside_beside.surface h.toSurface

/-! ## Calls and computations of the specification's own -/

theorem call (f : Value U) (args : List (Value U)) : C.Keeps (e.call f args) := by
  unfold Engine.call
  rw [a.host]
  split
  · exact a.run (h.call _ args)
  · exact a.run (.ask (.call f args))

theorem callWith (f : Value U) (offered : List (Value U)) : C.Keeps (e.callWith f offered) :=
  .get fun _ => a.call f _

theorem complain (c : Complaint) : C.Keeps (e.complain c : Run U (S × L) α) := refuse a.surface c

theorem raiseAgain (q : Bool) (err : Exn (Value U)) : C.Keeps (e.raiseAgain q err : Run U (S × L) α) := by
  intro w
  unfold Engine.raiseAgain
  split
  · split
    · exact a.complain _ w
    · exact C.refl w
  · exact C.refl w

theorem raiseFrom (f : Value U) (q : Bool) : C.Keeps (e.raiseFrom f q : Run U (S × L) α) := by
  rw [Engine.raiseFrom_eq]
  exact (a.call f []).attempt.bind fun r => a.raiseAgain q _

/-- A computation that goes in step with one that knows nothing of what stands beside the state. -/
theorem step {γ : Type} {R : γ → α → Prop} {x : Step U S γ} {x' : Step U (S × L) α}
    (hx : (Twin.kept U S L).Steps R x x') : C.Keeps (e.step x') := by
  intro w
  obtain ⟨-, hs⟩ := hx w.outside.2 w.outside.1 w.outside rfl
  have hside : (x' w.outside).2 = ((x w.outside.1).2, w.outside.2) := hs
  have hstill : ∀ p, (x' w.outside).2 = p → C.leads w (w.withOutside p) := by
    rintro p rfl
    refine C.still ?_ fun _ => rfl
    show (x' w.outside).2.2 = w.outside.2
    rw [hside]
  rw [Engine.step_apply]
  rcases hr : x' w.outside with ⟨b | (err | ⟨f, q⟩) | _, p⟩
  all_goals rw [hr] at hstill
  · exact hstill p rfl
  · exact hstill p rfl
  · exact C.trans (hstill p rfl) (a.raiseFrom f q _)
  · exact hstill p rfl

theorem notice {n : Step U S Notice} {n' : Step U (S × L) Notice} (hn : (Twin.kept U S L).Steps Eq n n') :
    C.Keeps (e.notice n') :=
  .get fun _ => .ite ((a.step hn).bind fun _ => record _) (.pure ())

/-- A notice about a value in words. -/
theorem noticeText (v : Value U) (n : String → Notice) :
    C.Keeps (e.notice (e.surface.textOf v >>= fun text => pure (n text))) := by
  have hnotice : (Twin.kept U S L).Steps Eq (h.toSurface.textOf v >>= fun text => pure (n text))
      (e.surface.textOf v >>= fun text => pure (n text)) := (a.surface.textOf rfl).bind_eq fun _ => .pure rfl
  exact a.notice hnotice

/-! ## Values of helpers -/

theorem defaultSubject (v : Value U) : C.Keeps (e.defaultSubject v) :=
  .get fun _ => .ite (a.call v []) (.pure v)

theorem produce (c : OuterCall (Value U)) : C.Keeps (e.produce c) := by
  unfold Engine.produce
  split
  · exact a.callWith _ _
  · exact a.defaultSubject _

/-- An authoring error that surfaces in a scope. -/
theorem raiseIn (f : Forest (Value U)) (s : Scope (Value U)) (v : Value U) {cause : Step U S AuthoringCause}
    {cause' : Step U (S × L) AuthoringCause} (hc : (Twin.kept U S L).Steps Eq cause cause') :
    C.Keeps (e.step (e.surface.raiseIn f s v cause' : Step U (S × L) α)) := by
  have hraise : (Twin.kept U S L).Steps Eq (h.toSurface.raiseIn f s v cause : Step U S α)
      (e.surface.raiseIn f s v cause') := a.surface.raiseIn (.refl s) (.refl f _) rfl hc
  exact a.step hraise

theorem callOuter (c : OuterCall (Value U)) : C.Keeps (e.callOuter c) := by
  unfold Engine.callOuter
  split
  · exact freshSerial.bind fun _ => a.produce _
  · exact (scope _).bind fun s => .get fun w =>
      a.raiseIn w.forest s _ ((a.surface.textOf rfl).bind_eq fun _ => .pure rfl)

theorem raiseUndefined (s : Scope (Value U)) (name : HelperName (Value U)) : C.Keeps (e.raiseUndefined s name) :=
  .get fun w => a.raiseIn w.forest s _
    (.ite rfl (.pure rfl) ((a.surface.textOf rfl).bind_eq fun _ => .pure rfl))

theorem raiseCircular (s : Scope (Value U)) (path : List (HelperName (Value U))) (name : HelperName (Value U)) :
    C.Keeps (e.raiseCircular s path name) := by
  have hnames := List.forall₂_same.mpr fun (v : Value U) (_ : v ∈ (path ++ [name]).map HelperName.toValue) =>
    (rfl : (Kinship.same (U := U)).value v v)
  exact .get fun w => a.raiseIn w.forest s _ ((a.surface.textsOf hnames).bind_eq fun _ => .pure rfl)

theorem compute (id : Nat) (s : Scope (Value U)) (name : HelperName (Value U)) : C.Keeps (e.compute id s name) := by
  refine .get fun w => (a.step (a.surface.definitionsFor (.refl w.forest s.owner.group) (.refl name))).bind fun ds => ?_
  split
  · exact a.raiseUndefined s name
  · refine freshSerial.bind fun serial => (whileComputing id name (a.produce _)).bind fun v => ?_
    refine (changeScope id ?_).bind fun _ => ?_
    · exact fun _ => rfl
    · exact (a.noticeText name.toValue fun text => .resolvedHelper text ds.length).bind fun _ => .pure v

theorem lookupName (id : Nat) (name : HelperName (Value U)) : C.Keeps (e.lookupName id name) := by
  refine (scope id).bind fun s => ?_
  split
  · exact .pure _
  · split
    · exact a.raiseCircular s _ name
    · exact a.compute id s name

theorem lookup (id : Nat) (name : Value U) : C.Keeps (e.lookup id name) :=
  (a.step (a.surface.helperName rfl)).bind fun n => a.lookupName id n

theorem describedTarget (id : Nat) : C.Keeps (e.describedTarget id) := by
  refine (scope id).bind fun s => .get fun w => ?_
  split
  · exact .pure _
  · exact a.raiseIn w.forest s _ (.pure rfl)

theorem access (id : Nat) (name : String) : C.Keeps (e.access id name) := by
  unfold Engine.access
  split
  · exact (a.describedTarget id).bind fun _ => .pure _
  · exact .pure _
  · exact .ite (a.complain _) ((a.lookup id _).bind fun _ => .pure _)

/-! ## Declarations -/

theorem fullText (f : Forest (Value U)) (g : Nat) : C.Keeps (e.step (e.surface.fullText f g)) :=
  a.step (a.surface.fullText (Kinship.Chain.refl f g).levels)

theorem ensureOpen (g : Nat) : C.Keeps (e.ensureOpen g) :=
  .get fun w => .ite ((a.fullText w.forest g).bind fun _ => .raise _) (.pure ())

theorem openChild (g : Nat) (d : Value U) : C.Keeps (e.openChild g d) :=
  (a.ensureOpen g).bind fun _ => .get fun _ => (changeForest _).bind fun _ => .pure _

theorem addExample (g : Nat) (d : Value U) (body : Option (Value U)) (message : Value U) :
    C.Keeps (e.addExample g d body message) :=
  (a.ensureOpen g).bind fun _ => .get fun _ => (changeForest _).bind fun _ => .pure _

theorem define (g : Nat) (name producer : Value U) : C.Keeps (e.define g name producer) :=
  (a.ensureOpen g).bind fun _ => .get fun w => (a.fullText w.forest g).bind fun _ =>
    (a.step (a.surface.helperName rfl)).bind fun _ => (changeForest _).bind fun _ => .pure _

theorem populate (g : Nat) (block : Value U) : C.Keeps (e.populate g block) := by
  have hblock : C.Keeps (do let _ ← e.callWith block [.builder g]; Pure.pure ()) :=
    (a.callWith block _).bind fun _ => .pure ()
  refine (hblock.ensure ?_).bind fun _ => .get fun w => (a.fullText w.forest g).bind fun path => a.notice (.pure rfl)
  exact fun w => C.still rfl fun _ => rfl

theorem declare (g : Nat) (d : Declaration (Value U)) : C.Keeps (e.declare g d) := by
  cases d with
  | group d block => exact .ite (.pure ()) ((a.openChild g d).bind fun child => a.populate child block)
  | helper name producer =>
    refine (a.step (a.surface.checkName name)).bind fun _ => .ite (.pure ()) ?_
    exact (a.define g name producer).bind fun _ => .get fun w => a.noticeText _ _
  | «example» d body =>
    refine .get fun w => ?_
    obtain ⟨d, body⟩ := e.exampleParts d body w.outside
    exact .ite ((a.addExample _ _ _ _).bind fun _ => .pure ()) ((a.addExample _ _ _ _).bind fun _ => .pure ())
  | pending message => exact (a.addExample _ _ _ _).bind fun _ => .pure ()
  | define name producer => exact (a.define _ _ _).bind fun _ => .pure ()
  | close => exact changeForest _

/-! ## Judging -/

theorem containsAll (container : Value U) (items : List (Value U)) : C.Keeps (e.containsAll container items) := by
  induction items with
  | nil => exact .pure true
  | cons item r ih =>
    unfold Engine.containsAll
    rw [a.host]
    exact (a.run (h.contains item container)).bind fun b => .ite ih (.pure false)

theorem isWithin (delta centre actual : Value U) : C.Keeps (e.step (e.isWithin delta centre actual)) := by
  have hwithin : (Twin.kept U S L).Steps Eq
      (if centre.isAbsent then h.toSurface.complain .missingCentre else do
        let difference ← h.toSurface.minus actual centre
        let distance ← h.toSurface.magnitude difference
        h.toSurface.atMost distance delta) (e.isWithin delta centre actual) :=
    .ite rfl (a.surface.complain _) <| (a.surface.minus rfl rfl).bind fun _ _ hd =>
      (a.surface.magnitude hd).bind fun _ _ hm => a.surface.atMost hm rfl
  exact a.step hwithin

theorem messageAgrees (err message : Value U) : C.Keeps (e.step (e.messageAgrees err message)) := by
  have hagrees : (Twin.kept U S L).Steps Eq
      (if message.isAbsent then pure true else do
        let text ← h.toSurface.textOf err
        h.toSurface.equal (.text text) message) (e.messageAgrees err message) :=
    .ite rfl (.pure rfl) ((a.surface.textOf rfl).bind_eq fun _ => a.surface.equal rfl rfl)
  exact a.step hagrees

theorem raisesExpected (r : Nat) (expected message block : Value U) :
    C.Keeps (e.raisesExpected r expected message block) := by
  refine .get fun w => .ite (a.complain _) ?_
  refine (setRecorder r _).bind fun _ => (a.call block []).attempt.bind fun res => ?_
  rcases res with (_ | _ | _ | _ | err) | v
  case error.thrown =>
    refine .get fun w => .ite (.raise _) ((a.step (a.surface.catches rfl rfl)).bind fun caught => ?_)
    exact .ite ((setRecorder r _).bind fun _ => a.messageAgrees _ message) (.raise _)
  case ok => exact .pure false
  all_goals exact .raise _

theorem matchActual (m : Matcher (Value U)) (actual : Value U) : C.Keeps (e.matchActual m actual) := by
  unfold Engine.matchActual
  rw [a.host]
  split
  · exact (a.step (a.surface.equal rfl rfl)).bind fun b => .pure _
  · exact .get fun w => .pure _
  · exact (a.step (a.surface.isInstance rfl rfl)).bind fun b => .pure _
  · exact (a.isWithin _ _ actual).bind fun b => .pure _
  · exact (a.containsAll actual _).bind fun b => .pure _
  · exact .get fun w => .pure _
  · exact (a.call _ _).bind fun v => .get fun w => .pure _
  · exact (a.raisesExpected _ _ _ actual).bind fun b => .pure _
  · exact a.run (h.matchesActual m.value actual)

theorem wantsBlock (m : Matcher (Value U)) : C.Keeps (e.wantsBlock m) := by
  unfold Engine.wantsBlock
  rw [a.host]
  split
  · exact (a.run (h.traitOf m.value .expectsCallable)).bind fun t => .get fun w => .pure _
  · exact .pure _

theorem observed (m : Matcher (Value U)) : C.Keeps (e.observed m) := by
  unfold Engine.observed
  rw [a.host]
  split
  · exact (a.run (h.traitOf m.value .actual)).bind fun t => .pure _
  · exact .gets _
  · exact .pure _

theorem judge (source : Source (Value U)) (m : Matcher (Value U)) : C.Keeps (e.judge source m) := by
  unfold Engine.judge
  split
  · exact (a.matchActual m _).attempt.bind fun r => .pure _
  · refine (a.wantsBlock m).attempt.bind fun r => ?_
    rcases r with err | _ | _
    · exact .pure _
    · refine (a.call _ []).attempt.bind fun r => ?_
      rcases r with err | v
      · exact .pure _
      · exact (a.matchActual m v).attempt.bind fun r => .pure _
    · refine ((a.matchActual m _).bind fun _ => (a.observed m).bind fun _ => .pure _).attempt.bind fun r => ?_
      rcases r with err | ⟨actual, matched⟩
      · exact .pure _
      · exact .pure _

theorem evaluate (source : Source (Value U)) (negate : Bool) (m : Matcher (Value U)) :
    C.Keeps (e.evaluate source negate m) := by
  refine (a.judge source m).bind fun ⟨actual, answer⟩ => .get fun w => ?_
  rcases answer with (_ | _ | _ | _ | err) | v
  case error.thrown => exact .ite (.pure _) (.raise _)
  case ok => exact .pure _
  all_goals exact .raise _

theorem evaluateBy (ev : Evaluator (Value U)) (source : Source (Value U)) (negate : Bool) (m : Matcher (Value U)) :
    C.Keeps (e.evaluateBy ev source negate m) := by
  unfold Engine.evaluateBy
  rw [a.host]
  split
  · exact a.evaluate source negate m
  · exact a.run (h.judge _ source negate m)

/-! ## Verdicts in words -/

theorem repr (v : Value U) : C.Keeps (e.step (e.surface.repr v)) := a.step (a.surface.repr rfl)

theorem matcherText (m : Matcher (Value U)) : C.Keeps (e.step (e.surface.matcherText m)) :=
  a.step (a.surface.matcherText (.refl m))

theorem describeMatcher (m : Matcher (Value U)) : C.Keeps (e.describeMatcher m) := by
  unfold Engine.describeMatcher
  rw [a.host]
  split
  · refine (a.run (h.traitOf m.value .description)).bind fun t => .get fun w => ?_
    split
    · exact .pure _
    · exact a.repr _
  · exact a.matcherText m

theorem summary (v : Verdict (Value U)) : C.Keeps (e.summary v) :=
  (a.repr v.actual).bind fun _ => (a.describeMatcher v.matcher).bind fun _ => .pure _

theorem raisesMessage (r : Nat) (m : Matcher (Value U)) (negate : Bool) : C.Keeps (e.raisesMessage r m negate) :=
  (a.matcherText m).bind fun _ => (Keeps.gets _).bind fun err => .ite (.pure _) ((a.repr err).bind fun _ => .pure _)

theorem failureText (m : Matcher (Value U)) (negate : Bool) (actual : Value U) :
    C.Keeps (e.failureText m negate actual) := by
  unfold Engine.failureText
  rw [a.host]
  split
  · refine (a.run (h.traitOf m.value _)).bind fun t => ?_
    rcases t with _ | f
    · exact .pure none
    · exact .get fun w => .ite ((a.call f _).bind fun text => .pure _) (.pure none)
  · exact (a.raisesMessage _ m negate).bind fun text => .pure _
  · exact (a.summary _).bind fun text => .pure _

theorem message (v : Verdict (Value U)) : C.Keeps (e.message v) := by
  unfold Engine.message
  split
  · exact (a.step (a.surface.describeFault rfl)).bind fun text => .pure _
  · have hsummary := (a.summary v).bind fun text => Keeps.pure (C := C) (Value.text (U := U) text)
    refine .ite hsummary ((a.failureText _ _ _).bind fun own => ?_)
    cases own with
    | some text => exact .pure text
    | none => exact hsummary

/-! ## Requests -/

theorem answerCall (f : Value U) (args : List (Value U)) : C.Keeps (e.answerCall f args) := by
  unfold Engine.answerCall
  rw [a.host]
  split
  · exact a.run (h.call _ args)
  · exact .ite (a.callOuter _) (a.complain _)
  · exact .ite (a.lookupName _ _) (a.complain _)
  · exact .get fun w => a.complain _

/-! ## Examples -/

theorem makeOutcome (tag : Tag) (description diagnostic : Value U) :
    C.Keeps (e.makeOutcome tag description diagnostic) := by
  refine .get fun w => ?_
  split
  · exact .pure _
  · exact a.complain _

theorem finish (tag : Tag) (display diagnostic : Value U) : C.Keeps (e.finish tag display diagnostic) :=
  (a.noticeText display _).bind fun _ => a.makeOutcome tag display diagnostic

theorem conclude (display : Value U) (err : Exn (Value U)) : C.Keeps (e.conclude display err) := by
  have htext := a.step (a.surface.errorText (.refl err))
  have hthrown (v : Value U) := a.step (a.surface.describeFault (v := v) rfl)
  refine .get fun w => ?_
  split
  · exact .raise _
  · exact .raise _
  · exact htext.bind fun text => a.finish _ _ _
  · exact htext.bind fun text => a.finish _ _ _
  all_goals
    split
    · exact (hthrown _).bind fun text => a.finish _ _ _
    · exact .raise _

theorem succeed (id : Nat) (display : Value U) : C.Keeps (e.succeed id display) := by
  refine (scope id).bind fun s => ?_
  split
  · exact (a.summary _).bind fun text => a.finish _ _ _
  · exact a.finish _ _ _

theorem skip (x : Example (Value U)) (display : Value U) : C.Keeps (e.skip x display) :=
  (a.noticeText display _).bind fun _ => .get fun _ => a.makeOutcome _ _ _

/-- A whole example keeps to the course. -/
theorem runExample (ev : Evaluator (Value U)) (x : Example (Value U)) : C.Keeps (e.runExample ev x) := by
  refine .get fun w => ?_
  have hdisplay := a.step (a.surface.displayName (f := w.forest) (x := x) rfl (.refl _ _))
  refine hdisplay.bind fun display => ?_
  split
  · exact a.skip x display
  · refine (openScope x ev).bind fun id => (a.noticeText display _).bind fun _ => ?_
    refine (a.callWith _ _).attempt.bind fun r => ?_
    cases r with
    | error err => exact a.conclude display err
    | ok v => exact a.succeed id display

/-! ## Trees and runs -/

omit a in
theorem addRoot (d : Value U) : C.Keeps (e.addRoot d) :=
  .get fun _ => (changeForest _).bind fun _ => .pure _

theorem buildGroup (d block : Value U) : C.Keeps (e.buildGroup d block) := by
  refine (addRoot d).bind fun root => .ite ?_ ?_
  · exact (changeForest _).bind fun _ => .pure root
  · exact (a.populate root block).bind fun _ => .pure root

theorem runFrom (r : Reporting) (ev : Evaluator (Value U)) (root n : Nat) (c : Forest.Cursor) (y : Tally) :
    C.Keeps (e.runFrom r (e.runExample ev) root n c y) := by
  induction n generalizing c y with
  | zero => exact .exhausted
  | succ n ih =>
    unfold Engine.runFrom
    refine .get fun w => ?_
    split
    · exact .pure y
    · refine (a.runExample ev _).bind fun o => ((record _).bind fun _ => .pure _).bind fun _ => .ite ?_ (ih _ _)
      refine .get fun w => ?_
      have htext := a.step (a.surface.groupText (Kinship.Level.refl w.forest root))
      exact htext.bind fun text => (a.notice (.pure rfl)).bind fun _ => .pure _

theorem runOrExit (r : Reporting) (ev : Evaluator (Value U)) (limit root : Nat) :
    C.Keeps (e.runOrExit r ev limit root) :=
  (a.runFrom r ev root limit _ _).bind fun y => .ite (.raise _) (.pure y)

theorem runAlone (r : Reporting) (ev : Evaluator (Value U)) (limit : Nat) (d : Declaration (Value U)) :
    C.Keeps (e.runAlone r ev limit d) := by
  refine (addRoot _).bind fun root => ((a.declare root d).ensure ?_).bind fun _ => .get fun w => ?_
  · exact fun w => C.still rfl fun _ => rfl
  · exact (a.fullText w.forest root).bind fun path => (a.notice (.pure rfl)).bind fun _ => a.runOrExit r ev limit root

end Serves
end Course
end Exemplar

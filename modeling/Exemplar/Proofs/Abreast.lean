import Exemplar.Exec
import Exemplar.Trial
import Exemplar.Proofs.Lockstep

/-!
# Exemplar.Proofs.Abreast — two engines side by side

Two engines, each with a host of its own, run side by side. If the hosts cannot be told apart by what corresponds, all
operations of the library go in step: there is one law per operation, one per form of program, and by induction on
the levels one for every program. How declarations are made is left open, so that one side may do more about them than
the other.

* `Program.Like`, `Host.Like`: programs and hosts that cannot be told apart.
* `Abreast.perform`, `Abreast.runExample`: every request, and a whole example, go in step.
* `abreast_execWith`: so does every program.
-/

namespace Exemplar

variable {U S S' : Type} {K : Kinship U}

/-! ## Programs -/

inductive Access.Like {V V' : Type} (R : V → V' → Prop) : Access V → Access V' → Prop
  | member (m : Member) : Like R (.member m) (.member m)
  | value {v : V} {v' : V'} (h : R v v') : Like R (.value v) (.value v')

theorem Access.like_eq {V : Type} : Access.Like (@Eq V) = Eq :=
  eq_of_iff (by rintro _ _ (_ | rfl) <;> rfl) (by rintro (_ | _) <;> constructor; rfl)

/-- Two requests for alike things. A look at the whole state is admitted if it sees the same of any two worlds that
correspond. -/
inductive Request.Like (T : Twin K S S') :
    {α α' : Type} → (α → α' → Prop) → Request U S α → Request U S' α' → Prop
  | step {α α' : Type} {R : α → α' → Prop} {x : Step U S α} {x' : Step U S' α'} (h : T.Steps R x x') :
    Like T R (.step x) (.step x')
  | observe {α α' : Type} {R : α → α' → Prop} {f : World U S → α} {f' : World U S' → α'}
    (h : ∀ m w w', T.holds m w w' → R (f w) (f' w')) : Like T R (.observe f) (.observe f')
  | note {vs vs' : List (Value U)} (h : List.Forall₂ K.value vs vs') : Like T Eq (.note vs) (.note vs')
  | call {f f' : Value U} {vs vs' : List (Value U)} (hf : K.value f f') (hvs : List.Forall₂ K.value vs vs') :
    Like T K.value (.call f vs) (.call f' vs')
  | lookup {i i' : Nat} {v v' : Value U} (hi : K.scope i i') (hv : K.value v v') :
    Like T K.value (.lookup i v) (.lookup i' v')
  | access {i i' : Nat} (hi : K.scope i i') (name : String) :
    Like T (Access.Like K.value) (.access i name) (.access i' name)
  | describedTarget {i i' : Nat} (hi : K.scope i i') : Like T K.value (.describedTarget i) (.describedTarget i')
  | evaluate {s s' : Source (Value U)} {m m' : Matcher (Value U)} (hs : s.Like K.value s') (negate : Bool)
    (hm : K.Matcher m m') : Like T K.Verdict (.evaluate s negate m) (.evaluate s' negate m')
  | require {t t' : Target (Value U)} {m m' : Matcher (Value U)} (ht : t.Like K.toHandles K.value t') (negate : Bool)
    (hm : K.Matcher m m') : Like T K.Verdict (.require t negate m) (.require t' negate m')
  | message {v v' : Verdict (Value U)} (hv : K.Verdict v v') : Like T K.value (.message v) (.message v')
  | summary {v v' : Verdict (Value U)} (hv : K.Verdict v v') : Like T Eq (.summary v) (.summary v')
  | declare {g g' : Nat} {d d' : Declaration (Value U)} (h : T.declares g d g' d') :
    Like T Eq (.declare g d) (.declare g' d')
  | recorder : Like T K.recorder .recorder .recorder
  | serial : Like T K.serial .serial .serial

/-- Two programs of one form that make alike requests and go on alike with alike answers. -/
inductive Program.Like (T : Twin K S S') :
    {α α' : Type} → (α → α' → Prop) → Program U S α → Program U S' α' → Prop
  | pure {α α' : Type} {R : α → α' → Prop} {a : α} {a' : α'} (h : R a a') : Like T R (.pure a) (.pure a')
  | bind {α α' β β' : Type} {Q : β → β' → Prop} {R : α → α' → Prop} {p : Program U S β} {p' : Program U S' β'}
    {k : β → Program U S α} {k' : β' → Program U S' α'} (h : Like T Q p p')
    (hk : ∀ b b', Q b b' → Like T R (k b) (k' b')) : Like T R (p.bind k) (p'.bind k')
  | raise {α α' : Type} {R : α → α' → Prop} {e e' : Exn (Value U)} (h : K.Exn e e') : Like T R (.raise e) (.raise e')
  | attempt {α α' : Type} {R : α → α' → Prop} {p : Program U S α} {p' : Program U S' α'} (h : Like T R p p') :
    Like T (Except.Like K.Exn R) p.attempt p'.attempt
  | ask {α α' : Type} {R : α → α' → Prop} {r : Request U S α} {r' : Request U S' α'} (h : r.Like T R r') :
    Like T R (.ask r) (.ask r')
  /-- The second program may first do something for itself. -/
  | aside {α α' : Type} {R : α → α' → Prop} {p : Program U S α} {p' : Program U S' α'} {change : S' → S'}
    (hc : ∀ t s s', T.tie t s s' → T.tie t s (change s')) (h : Like T R p p') :
    Like T R p (.bind (.ask (.step (Action.modify change))) fun _ => p')

/-- Two specifications that cannot be told apart by what corresponds: alike values are answered alike, and the code
behind them is alike. -/
structure Host.Like (T : Twin K S S') (h : Host U S) (h' : Host U S') : Prop extends
    Surface.Like T h.toSurface h'.toSurface where
  call {u u' : U} {vs vs' : List (Value U)} : K.user u u' → List.Forall₂ K.value vs vs' →
    Program.Like T K.value (h.call u vs) (h'.call u' vs')
  contains {v v' c c' : Value U} : K.value v v' → K.value c c' → Program.Like T Eq (h.contains v c) (h'.contains v' c')
  matchesActual {m m' v v' : Value U} : K.value m m' → K.value v v' →
    Program.Like T K.value (h.matchesActual m v) (h'.matchesActual m' v')
  traitOf {m m' : Value U} (q : Trait) : K.value m m' →
    Program.Like T (Option.Rel K.value) (h.traitOf m q) (h'.traitOf m' q)
  judge {v v' : Value U} {s s' : Source (Value U)} {m m' : Matcher (Value U)} (negate : Bool) : K.value v v' →
    s.Like K.value s' → K.Matcher m m' →
    Program.Like T K.Verdict (h.judge v s negate m) (h'.judge v' s' negate m')

/-! ## Engines -/

/-- Answers a request as `Engine.perform` does, but for the declarations, which `declare` makes. -/
def Engine.performWith (e : Engine U S) (declare : Nat → Declaration (Value U) → Run U S Unit) {α : Type} :
    Request U S α → Run U S α
  | .declare g d => declare g d
  | r => e.perform r

/-- The two engines serve hosts that cannot be told apart, and run alike programs in step. -/
structure Abreast (T : Twin K S S') (e : Engine U S) (e' : Engine U S') : Prop where
  host : Host.Like T e.host e'.host
  run {α α' : Type} {R : α → α' → Prop} {p : Program U S α} {p' : Program U S' α'} :
    Program.Like T R p p' → T.Runs R (e.run p) (e'.run p')

namespace Abreast

variable {T : Twin K S S'}

/-! ### Small operations -/

theorem record {ev ev' : Event (Value U)} (h : ev.Like K.value ev') : T.Runs Eq (Run.record ev) (Run.record ev') :=
  .modify fun _ _ _ hw => T.records hw h

theorem freshSerial : T.Runs K.serial Run.freshSerial Run.freshSerial := by
  intro m w w' hw
  obtain ⟨h, hw⟩ := T.counts hw
  exact ⟨.done h, hw⟩

theorem newRecorder : T.Runs K.recorder Run.newRecorder Run.newRecorder := by
  intro m w w' hw
  obtain ⟨h, hw⟩ := T.recorders hw
  exact ⟨.done h, hw⟩

theorem setRecorder {r r' : Nat} {v v' : Value U} (hr : K.recorder r r') (hv : K.value v v') :
    T.Runs Eq (Run.setRecorder r v) (Run.setRecorder r' v') :=
  .modify fun _ _ _ hw => T.meets hw hr hv

theorem scope {i i' : Nat} (hi : K.scope i i') : T.Runs K.Scope (Run.scope i) (Run.scope i') := by
  refine .get fun m w w' hw => ?_
  have hs := T.scope? hw hi
  generalize w.scope? i = o at hs ⊢
  generalize w'.scope? i' = o' at hs ⊢
  cases hs with
  | some h => exact .pure h
  | none => exact .exhausted

theorem changeScope {i i' : Nat} {c c' : Scope (Value U) → Scope (Value U)} (hi : K.scope i i')
    (h : ∀ s s', K.Scope s s' → K.Scope (c s) (c' s')) : T.Runs Eq (Run.changeScope i c) (Run.changeScope i' c') :=
  .modify fun _ _ _ hw => T.updates hw hi h

theorem openScope {x x' : Example (Value U)} {ev ev' : Evaluator (Value U)} (hx : K.owner x x')
    (hev : ev.Like K.value ev') : T.Runs K.scope (Engine.openScope x ev) (Engine.openScope x' ev') := by
  intro m w w' hw
  obtain ⟨h, hw⟩ := T.opens hw hx hev
  exact ⟨.done h, hw⟩

theorem whileComputing {α α' : Type} {R : α → α' → Prop} {i i' : Nat} (hi : K.scope i i')
    {n n' : HelperName (Value U)} (hn : K.Name n n') {x : Run U S α} {x' : Run U S' α'} (hx : T.Runs R x x') :
    T.Runs R (Engine.whileComputing i n x) (Engine.whileComputing i' n' x') :=
  (changeScope hi fun _ _ hs => hs.enter hn).bind_eq fun _ =>
    hx.ensure fun _ _ _ hw => T.updates hw hi fun _ _ hs => hs.leave

/-- Both sides answer a misuse. -/
theorem refuse {α α' : Type} {R : α → α' → Prop} {sf : Surface U S} {sf' : Surface U S'} (h : sf.Like T sf')
    (c : Complaint) : T.Runs R (Run.complain sf c : Run U S α) (Run.complain sf' c) := by
  intro m w w' hw
  obtain ⟨t, ht, hout⟩ := T.outside hw
  obtain ⟨hv, ht⟩ := h.complaint c ht
  exact ⟨.raised (.thrown hv), hout _ _ ht⟩

variable {e : Engine U S} {e' : Engine U S'} (a : Abreast T e e')
include a

theorem surface : Surface.Like T e.surface e'.surface := a.host.toLike

/-! ### Calls and computations of the specification's own -/

theorem call {f f' : Value U} {vs vs' : List (Value U)} (hf : K.value f f') (hvs : List.Forall₂ K.value vs vs') :
    T.Runs K.value (e.call f vs) (e'.call f' vs') := by
  have hask := a.run (.ask (.call hf hvs))
  cases K.value_iff.mp hf with
  | user h => exact a.run (a.host.call h hvs)
  | _ => exact hask

theorem callWith {f f' : Value U} {vs vs' : List (Value U)} (hf : K.value f f') (hvs : List.Forall₂ K.value vs vs') :
    T.Runs K.value (e.callWith f vs) (e'.callWith f' vs') := by
  refine .get fun m w w' hw => ?_
  obtain ⟨t, ht, -⟩ := T.outside hw
  exact a.call hf (a.surface.argumentsFor hf hvs ht)

theorem complain {α α' : Type} {R : α → α' → Prop} (c : Complaint) :
    T.Runs R (e.complain c : Run U S α) (e'.complain c) := refuse a.surface c

theorem raiseAgain {α α' : Type} {R : α → α' → Prop} (q : Bool) {err err' : Exn (Value U)} (he : K.Exn err err') :
    T.Runs R (e.raiseAgain q err : Run U S α) (e'.raiseAgain q err') := by
  intro m w w' hw
  cases he with
  | thrown hv =>
    obtain ⟨t, ht, -⟩ := T.outside hw
    unfold Action.LikeAt Engine.raiseAgain
    dsimp only
    rw [a.surface.endsSequence hv ht]
    split
    · exact a.complain _ m w w' hw
    · exact ⟨.raised (.thrown hv), hw⟩
  | _ => exact ⟨.raised (by constructor <;> assumption), hw⟩

theorem raiseFrom {α α' : Type} {R : α → α' → Prop} {f f' : Value U} (hf : K.value f f') (q : Bool) :
    T.Runs R (e.raiseFrom f q : Run U S α) (e'.raiseFrom f' q) := by
  rw [Engine.raiseFrom_eq, Engine.raiseFrom_eq]
  refine (a.call hf .nil).attempt.bind fun r r' hr => a.raiseAgain q ?_
  cases hr with
  | error h => exact h
  | ok h => exact .thrown h

theorem step {α α' : Type} {R : α → α' → Prop} {x : Step U S α} {x' : Step U S' α'} (hx : T.Steps R x x') :
    T.Runs R (e.step x) (e'.step x') := by
  intro m w w' hw
  obtain ⟨t, ht, hout⟩ := T.outside hw
  obtain ⟨he, ht⟩ := hx t _ _ ht
  unfold Action.LikeAt
  rw [Engine.step_apply, Engine.step_apply]
  rcases hxs : x w.outside with ⟨r, s⟩
  rcases hxs' : x' w'.outside with ⟨r', s'⟩
  rw [hxs, hxs'] at he ht
  have hw := hout _ _ ht
  cases he with
  | done h => exact ⟨.done h, hw⟩
  | exhausted => exact ⟨.exhausted, hw⟩
  | raised h =>
    cases h with
    | raised h => exact ⟨.raised h, hw⟩
    | unshowable h q => exact a.raiseFrom h q m _ _ hw

theorem notice {n : Step U S Notice} {n' : Step U S' Notice} (hn : T.Steps Eq n n') :
    T.Runs Eq (e.notice n) (e'.notice n') := by
  refine .get fun m w w' hw => .ite (T.verbose hw) ?_ (.pure rfl)
  exact (a.step hn).bind_eq fun n => record (.notice n)

/-! ### Values of helpers -/

theorem defaultSubject {v v' : Value U} (hv : K.value v v') :
    T.Runs K.value (e.defaultSubject v) (e'.defaultSubject v') := by
  refine .get fun m w w' hw => ?_
  obtain ⟨t, ht, -⟩ := T.outside hw
  exact .ite (a.surface.isConstructible hv ht) (a.call hv .nil) (.pure hv)

theorem produce {c c' : OuterCall (Value U)} (hc : K.Call c c') : T.Runs K.value (e.produce c) (e'.produce c') := by
  have hp := hc.current.producer
  unfold Engine.produce
  generalize c.current.producer = p at hp ⊢
  generalize c'.current.producer = p' at hp ⊢
  cases hp with
  | callable hf => exact a.callWith hf (.cons (Kinship.ofScope hc.scope) (.cons (Kinship.ofCall hc) .nil))
  | target hv => exact a.defaultSubject hv

/-- An authoring error that surfaced in a scope. -/
theorem raiseIn {α α' : Type} {R : α → α' → Prop} {s s' : Scope (Value U)} (hs : K.Scope s s') {v v' : Value U}
    (hv : K.value v v') {cause : Step U S AuthoringCause} {cause' : Step U S' AuthoringCause}
    (hcause : T.Steps Eq cause cause') :
    T.Runs R (Action.get >>= fun w => e.step (e.surface.raiseIn w.forest s v cause : Step U S α))
      (Action.get >>= fun w => e'.step (e'.surface.raiseIn w.forest s' v' cause')) :=
  .get fun _ _ _ hw => a.step (a.surface.raiseIn hs (T.chain hw hs.owner) hv hcause)

theorem callOuter {c c' : OuterCall (Value U)} (hc : K.Call c c') :
    T.Runs K.value (e.callOuter c) (e'.callOuter c') := by
  obtain ⟨hn, hi, hd, hds⟩ := hc
  cases hds with
  | cons hd hds => exact freshSerial.bind fun n n' hn => a.produce (.mk hn hi hd hds)
  | nil =>
    obtain ⟨hn, -, -⟩ := hd
    refine (scope hi).bind fun s s' hs => a.raiseIn hs (Kinship.toValue hn) ?_
    exact (a.surface.textOf (Kinship.toValue hn)).bind_eq fun _ => .pure rfl

theorem raiseUndefined {s s' : Scope (Value U)} (hs : K.Scope s s') {n n' : HelperName (Value U)} (hn : K.Name n n') :
    T.Runs K.value (e.raiseUndefined s n) (e'.raiseUndefined s' n') :=
  a.raiseIn hs (Kinship.toValue hn) (.ite (hn.same_eq .subject) (.pure rfl)
    ((a.surface.textOf (Kinship.toValue hn)).bind_eq fun _ => .pure rfl))

theorem raiseCircular {s s' : Scope (Value U)} (hs : K.Scope s s') {ns ns' : List (HelperName (Value U))}
    (hns : List.Forall₂ K.Name ns ns') {n n' : HelperName (Value U)} (hn : K.Name n n') :
    T.Runs K.value (e.raiseCircular s ns n) (e'.raiseCircular s' ns' n') := by
  refine a.raiseIn hs (Kinship.toValue hn) ?_
  have hvs := List.rel_map (fun _ _ h => Kinship.toValue h) (List.rel_append hns (.cons hn .nil))
  exact (a.surface.textsOf hvs).bind_eq fun texts => .pure rfl

theorem compute {i i' : Nat} (hi : K.scope i i') {s s' : Scope (Value U)} (hs : K.Scope s s')
    {n n' : HelperName (Value U)} (hn : K.Name n n') : T.Runs K.value (e.compute i s n) (e'.compute i' s' n') := by
  refine .get fun m w w' hw => (a.step (a.surface.definitionsFor (T.chain hw hs.owner) hn)).bind fun ds ds' hds => ?_
  have hrev := List.rel_reverse hds
  rw [← hds.length_eq]
  generalize ds.reverse = rs at hrev ⊢
  generalize ds'.reverse = rs' at hrev ⊢
  cases hrev with
  | nil => exact a.raiseUndefined hs hn
  | cons hd houtward =>
    refine freshSerial.bind fun k k' hk => (whileComputing hi hn (a.produce (.mk hk hi hd houtward))).bind
      fun v v' hv => (changeScope hi fun _ _ hs => hs.keep hn hv).bind_eq fun _ => ?_
    refine (a.notice ?_).bind_eq fun _ => .pure hv
    exact (a.surface.textOf (Kinship.toValue hn)).bind_eq fun _ => .pure rfl

theorem lookupName {i i' : Nat} (hi : K.scope i i') {n n' : HelperName (Value U)} (hn : K.Name n n') :
    T.Runs K.value (e.lookupName i n) (e'.lookupName i' n') := by
  refine (scope hi).bind fun s s' hs => ?_
  have hkept := hs.kept? hn
  generalize s.kept? n = o at hkept ⊢
  generalize s'.kept? n' = o' at hkept ⊢
  cases hkept with
  | some hv => exact .pure hv
  | none =>
    have hpath := hs.pathFrom? hn
    dsimp only
    generalize s.pathFrom? n = o at hpath ⊢
    generalize s'.pathFrom? n' = o' at hpath ⊢
    cases hpath with
    | some hns => exact a.raiseCircular hs hns hn
    | none => exact a.compute hi hs hn

theorem lookup {i i' : Nat} (hi : K.scope i i') {v v' : Value U} (hv : K.value v v') :
    T.Runs K.value (e.lookup i v) (e'.lookup i' v') :=
  (a.step (a.surface.helperName hv)).bind fun _ _ hn => a.lookupName hi hn

theorem describedTarget {i i' : Nat} (hi : K.scope i i') :
    T.Runs K.value (e.describedTarget i) (e'.describedTarget i') := by
  refine (scope hi).bind fun s s' hs => .get fun m w w' hw => ?_
  have hc := T.chain hw hs.owner
  have htarget := hc.target
  generalize w.forest.target? s.owner.group = o at htarget ⊢
  generalize w'.forest.target? s'.owner.group = o' at htarget ⊢
  cases htarget with
  | some hv => exact .pure hv
  | none => exact a.step (a.surface.raiseIn hs hc Kinship.absent (.pure rfl))

theorem access {i i' : Nat} (hi : K.scope i i') (name : String) :
    T.Runs (Access.Like K.value) (e.access i name) (e'.access i' name) := by
  unfold Engine.access
  split
  · exact (a.describedTarget hi).bind fun _ _ hv => .pure (.value hv)
  · exact .pure (.member _)
  · split
    · exact a.complain _
    · exact (a.lookup hi (Kinship.text name)).bind fun _ _ hv => .pure (.value hv)

/-! ### Judging -/

theorem containsAll {c c' : Value U} (hc : K.value c c') {vs vs' : List (Value U)} (hvs : List.Forall₂ K.value vs vs') :
    T.Runs Eq (e.containsAll c vs) (e'.containsAll c' vs') := by
  induction hvs with
  | nil => exact .pure rfl
  | cons hv _ ih => exact (a.run (a.host.contains hv hc)).bind_eq fun b => .ite rfl ih (.pure rfl)

theorem isWithin {d d' c c' v v' : Value U} (hd : K.value d d') (hc : K.value c c') (hv : K.value v v') :
    T.Steps Eq (e.isWithin d c v) (e'.isWithin d' c' v') := by
  refine .ite (Kinship.isAbsent_eq hc) (a.surface.complain _) ?_
  exact (a.surface.minus hv hc).bind fun _ _ h => (a.surface.magnitude h).bind fun _ _ h => a.surface.atMost h hd

theorem messageAgrees {v v' m m' : Value U} (hv : K.value v v') (hm : K.value m m') :
    T.Steps Eq (e.messageAgrees v m) (e'.messageAgrees v' m') :=
  .ite (Kinship.isAbsent_eq hm) (.pure rfl)
    ((a.surface.textOf hv).bind_eq fun text => a.surface.equal (Kinship.text text) hm)

theorem raisesExpected {r r' : Nat} (hr : K.recorder r r') {x x' m m' f f' : Value U} (hx : K.value x x')
    (hm : K.value m m') (hf : K.value f f') :
    T.Runs Eq (e.raisesExpected r x m f) (e'.raisesExpected r' x' m' f') := by
  refine .get fun k w w' hw => ?_
  obtain ⟨t, ht, -⟩ := T.outside hw
  refine .ite (congrArg _ (a.surface.isCallable hf ht)) (a.complain _) ?_
  refine (setRecorder hr Kinship.absent).bind_eq fun _ => (a.call hf .nil).attempt.bind fun o o' ho => ?_
  cases ho with
  | ok h => exact .pure rfl
  | error h =>
    cases h with
    | @thrown v v' hv =>
      refine .get fun k w w' hw => ?_
      obtain ⟨t, ht, -⟩ := T.outside hw
      refine .ite (congrArg _ (a.surface.kind hv ht)) (.raise (.thrown hv)) ?_
      refine (a.step (a.surface.catches hx hv)).bind_eq fun caught => .ite rfl ?_ (.raise (.thrown hv))
      exact (setRecorder hr hv).bind_eq fun _ => a.step (a.messageAgrees hv hm)
    | _ => exact .raise (by constructor <;> assumption)

theorem matchActual {m m' : Matcher (Value U)} (hm : K.Matcher m m') {v v' : Value U} (hv : K.value v v') :
    T.Runs K.value (e.matchActual m v) (e'.matchActual m' v') := by
  have hflag {x : Run U S Bool} {x' : Run U S' Bool} (h : T.Runs Eq x x') :
      T.Runs K.value (x >>= fun b => pure (.flag b)) (x' >>= fun b => pure (.flag b)) :=
    h.bind_eq fun b => .pure (Kinship.flag b)
  obtain ⟨hval, hc⟩ := hm
  cases hc with
  | equalTo h => exact hflag (a.step (a.surface.equal hv h))
  | same h =>
    refine .get fun k w w' hw => ?_
    obtain ⟨t, ht, -⟩ := T.outside hw
    rw [a.surface.identical hv h ht]
    exact .pure (Kinship.flag _)
  | instanceOf h => exact hflag (a.step (a.surface.isInstance hv h))
  | within hd hc => exact hflag (a.step (a.isWithin hd hc hv))
  | includes h => exact hflag (a.containsAll hv h)
  | found p =>
    refine .get fun k w w' hw => ?_
    obtain ⟨t, ht, -⟩ := T.outside hw
    rw [a.surface.text? hv ht]
    exact .pure (Kinship.flag _)
  | satisfies hp hl =>
    refine (a.call hp (.cons hv .nil)).bind fun r r' hr => .get fun k w w' hw => ?_
    obtain ⟨t, ht, -⟩ := T.outside hw
    rw [a.surface.holds hr ht]
    exact .pure (Kinship.flag _)
  | raises hr he hmsg => exact hflag (a.raisesExpected hr he hmsg hv)
  | own => exact a.run (a.host.matchesActual hval hv)

theorem wantsBlock {m m' : Matcher (Value U)} (hm : K.Matcher m m') :
    T.Runs Eq (e.wantsBlock m) (e'.wantsBlock m') := by
  obtain ⟨hval, hc⟩ := hm
  cases hc with
  | own =>
    refine (a.run (a.host.traitOf _ hval)).bind fun o o' ho => .get fun k w w' hw => ?_
    obtain ⟨t, ht, -⟩ := T.outside hw
    cases ho with
    | some h =>
      refine .pure ?_
      exact (a.surface.holds h ht).symm
    | none => exact .pure rfl
  | _ => exact .pure rfl

theorem observed {m m' : Matcher (Value U)} (hm : K.Matcher m m') :
    T.Runs K.value (e.observed m) (e'.observed m') := by
  obtain ⟨hval, hc⟩ := hm
  cases hc with
  | own => exact (a.run (a.host.traitOf _ hval)).bind fun _ _ ho => .pure (Kinship.getD ho Kinship.absent)
  | raises hr => exact .gets fun _ _ _ hw => T.recorded hw hr
  | _ => exact .pure Kinship.absent

/-- What was observed, and the answer or the error that came instead. -/
abbrev Judged (K : Kinship U) (p p' : Value U × Except (Exn (Value U)) (Value U)) : Prop :=
  K.value p.1 p'.1 ∧ Except.Like K.Exn K.value p.2 p'.2

theorem judge {s s' : Source (Value U)} (hs : s.Like K.value s') {m m' : Matcher (Value U)} (hm : K.Matcher m m') :
    T.Runs (Judged K) (e.judge s m) (e'.judge s' m') := by
  have hvalue {v v' : Value U} (hv : K.value v v') : T.Runs (Judged K)
      (Action.attempt (e.matchActual m v) >>= fun r => pure (v, r))
      (Action.attempt (e'.matchActual m' v') >>= fun r => pure (v', r)) :=
    (a.matchActual hm hv).attempt.bind fun _ _ hr => .pure ⟨hv, hr⟩
  cases hs with
  | value hv => exact hvalue hv
  | block hf =>
    refine (a.wantsBlock hm).attempt.bind fun o o' ho => ?_
    cases ho with
    | error h => exact .pure ⟨Kinship.absent, .error h⟩
    | @ok b b' h =>
      subst h
      cases b with
      | true =>
        have hboth : T.Runs (fun p p' => K.value p.1 p'.1 ∧ K.value p.2 p'.2)
            (e.matchActual m _ >>= fun matched => e.observed m >>= fun actual => pure (actual, matched))
            (e'.matchActual m' _ >>= fun matched => e'.observed m' >>= fun actual => pure (actual, matched)) :=
          (a.matchActual hm hf).bind fun _ _ hr => (a.observed hm).bind fun _ _ hv => .pure ⟨hv, hr⟩
        refine hboth.attempt.bind fun o o' ho => ?_
        cases ho with
        | ok h => exact .pure ⟨h.1, .ok h.2⟩
        | error h => exact .pure ⟨Kinship.absent, .error h⟩
      | false =>
        refine (a.call hf .nil).attempt.bind fun o o' ho => ?_
        cases ho with
        | ok h => exact hvalue h
        | error h => exact .pure ⟨Kinship.absent, .error h⟩

theorem evaluate {s s' : Source (Value U)} (hs : s.Like K.value s') (negate : Bool) {m m' : Matcher (Value U)}
    (hm : K.Matcher m m') : T.Runs K.Verdict (e.evaluate s negate m) (e'.evaluate s' negate m') := by
  refine (a.judge hs hm).bind fun p p' hp => .get fun k w w' hw => ?_
  obtain ⟨t, ht, -⟩ := T.outside hw
  obtain ⟨actual, answer⟩ := p
  obtain ⟨actual', answer'⟩ := p'
  obtain ⟨hactual, hanswer⟩ := hp
  cases hanswer with
  | ok h =>
    refine .pure ?_
    rw [a.surface.holds h ht]
    exact .mk _ hactual .none _ hm
  | error h =>
    cases h with
    | thrown hv =>
      dsimp only
      rw [a.surface.kind hv ht]
      split
      · exact .pure (.mk _ hactual (.some hv) _ hm)
      · exact .raise (.thrown hv)
    | _ => exact .raise (by constructor <;> assumption)

theorem evaluateBy {ev ev' : Evaluator (Value U)} (hev : ev.Like K.value ev') {s s' : Source (Value U)}
    (hs : s.Like K.value s') (negate : Bool) {m m' : Matcher (Value U)} (hm : K.Matcher m m') :
    T.Runs K.Verdict (e.evaluateBy ev s negate m) (e'.evaluateBy ev' s' negate m') := by
  cases hev with
  | standard => exact a.evaluate hs negate hm
  | custom hv => exact a.run (a.host.judge negate hv hs hm)

/-! ### Verdicts in words -/

theorem describeMatcher {m m' : Matcher (Value U)} (hm : K.Matcher m m') :
    T.Runs Eq (e.describeMatcher m) (e'.describeMatcher m') := by
  have htext := a.step (a.surface.matcherText hm)
  obtain ⟨hval, hc⟩ := hm
  cases hc with
  | own =>
    refine (a.run (a.host.traitOf _ hval)).bind fun o o' ho => .get fun k w w' hw => ?_
    obtain ⟨t, ht, -⟩ := T.outside hw
    cases ho with
    | none => exact a.step (a.surface.repr hval)
    | some h =>
      simp only [Option.bind_some]
      rw [a.surface.text? h ht]
      split
      · exact .pure rfl
      · exact a.step (a.surface.repr hval)
  | _ => exact htext

theorem summary {v v' : Verdict (Value U)} (hv : K.Verdict v v') : T.Runs Eq (e.summary v) (e'.summary v') := by
  obtain ⟨_, ha, -, negate, hm⟩ := hv
  exact (a.step (a.surface.repr ha)).bind_eq fun actual => (a.describeMatcher hm).bind_eq fun wanted => .pure rfl

theorem raisesMessage {r r' : Nat} (hr : K.recorder r r') {m m' : Matcher (Value U)} (hm : K.Matcher m m')
    (negate : Bool) : T.Runs Eq (e.raisesMessage r m negate) (e'.raisesMessage r' m' negate) := by
  refine (a.step (a.surface.matcherText hm)).bind_eq fun wanted => ?_
  refine (Action.Like.gets fun _ _ _ hw => T.recorded hw hr).bind fun v v' hv => ?_
  refine .ite (congrArg (· && !negate) (Kinship.isAbsent_eq hv)) (.pure rfl) ?_
  exact (a.step (a.surface.repr hv)).bind_eq fun text => .pure rfl

theorem failureText {m m' : Matcher (Value U)} (hm : K.Matcher m m') (negate : Bool) {v v' : Value U}
    (hv : K.value v v') :
    T.Runs (Option.Rel K.value) (e.failureText m negate v) (e'.failureText m' negate v') := by
  have hsummary := (a.summary (.mk false hv .none negate hm)).bind_eq
    (Q := Option.Rel K.value) fun text => .pure (.some (Kinship.text text))
  have hm' := id hm
  obtain ⟨hval, hc⟩ := hm'
  cases hc with
  | own =>
    refine (a.run (a.host.traitOf _ hval)).bind fun o o' ho => ?_
    cases ho with
    | none => exact .pure .none
    | some hf =>
      refine .get fun k w w' hw => ?_
      obtain ⟨t, ht, -⟩ := T.outside hw
      refine .ite (a.surface.isCallable hf ht) ?_ (.pure .none)
      exact (a.call hf (.cons hv .nil)).bind fun _ _ h => .pure (.some h)
  | raises hr => exact (a.raisesMessage hr hm negate).bind_eq fun text => .pure (.some (Kinship.text text))
  | _ => exact hsummary

theorem message {v v' : Verdict (Value U)} (hv : K.Verdict v v') : T.Runs K.value (e.message v) (e'.message v') := by
  have hfailure : T.Runs (Option.Rel K.value) (e.failureText v.matcher v.negate v.actual)
      (e'.failureText v'.matcher v'.negate v'.actual) := by
    obtain ⟨_, ha, -, negate, hm⟩ := hv
    exact a.failureText hm negate ha
  have hfault := hv.fault
  unfold Engine.message
  generalize v.fault = o at hfault ⊢
  generalize v'.fault = o' at hfault ⊢
  cases hfault with
  | some h => exact (a.step (a.surface.describeFault h)).bind_eq fun text => .pure (Kinship.text text)
  | none =>
    have hnone : Option.Rel K.value (none : Option (Value U)) none := .none
    refine .ite hv.valid_eq ((Action.Like.pure hnone).bind ?_) (hfailure.bind ?_)
    all_goals
      rintro _ _ (h | _)
      · exact .pure h
      · exact (a.summary hv).bind_eq fun text => .pure (Kinship.text text)

theorem require {t t' : Target (Value U)} (ht : t.Like K.toHandles K.value t') (negate : Bool)
    {m m' : Matcher (Value U)} (hm : K.Matcher m m') :
    T.Runs K.Verdict (e.require t negate m) (e'.require t' negate m') := by
  obtain ⟨hs, hev, ho⟩ := ht
  refine (a.evaluateBy hev hs negate hm).bind fun v v' hv => ?_
  have hmessage := a.message hv
  have hfault := hv.fault
  generalize v.fault = f at hfault ⊢
  generalize v'.fault = f' at hfault ⊢
  cases hfault with
  | some h => exact (a.step (a.surface.describeFault h)).bind_eq fun text => .raise (.fault text h)
  | none =>
    refine .ite hv.valid_eq ?_ (hmessage.bind fun _ _ h => .raise (.failure h))
    cases ho with
    | some hi => exact (changeScope hi fun _ _ hs => hs.succeed hv).bind_eq fun _ => .pure hv
    | none => exact .pure hv

/-! ### Requests -/

theorem answerCall {f f' : Value U} (hf : K.value f f') {vs vs' : List (Value U)} (hvs : List.Forall₂ K.value vs vs') :
    T.Runs K.value (e.answerCall f vs) (e'.answerCall f' vs') := by
  have hno : T.Runs K.value (Action.get >>= fun w => e.complain (.notCallable (e.surface.typeName f w.outside)))
      (Action.get >>= fun w => e'.complain (.notCallable (e'.surface.typeName f' w.outside))) := by
    refine .get fun m w w' hw => ?_
    obtain ⟨t, ht, -⟩ := T.outside hw
    rw [a.surface.typeName hf ht]
    exact a.complain _
  have hempty : vs'.isEmpty = vs.isEmpty := by cases hvs <;> rfl
  cases K.value_iff.mp hf with
  | user h => exact a.run (a.host.call h hvs)
  | outer h =>
    unfold Engine.answerCall
    rw [hvs.length_eq]
    exact .ite hempty (a.callOuter h) (a.complain _)
  | subjectOf hn hi =>
    unfold Engine.answerCall
    rw [hvs.length_eq]
    exact .ite hempty (a.lookupName hi .subject) (a.complain _)
  | _ => exact hno

/-- Alike requests are answered alike, other than declarations. -/
theorem perform {α α' : Type} {R : α → α' → Prop} {r : Request U S α} {r' : Request U S' α'} (hr : r.Like T R r')
    {declare : Nat → Declaration (Value U) → Run U S Unit} {declare' : Nat → Declaration (Value U) → Run U S' Unit}
    (hd : ∀ g g' d d', T.declares g d g' d' → T.Runs Eq (declare g d) (declare' g' d')) :
    T.Runs R (e.performWith declare r) (e'.performWith declare' r') := by
  cases hr with
  | step h => exact a.step h
  | observe h => exact .gets h
  | note h => exact record (.note h)
  | call hf hvs => exact a.answerCall hf hvs
  | lookup hi hv => exact a.lookup hi hv
  | access hi name => exact a.access hi name
  | describedTarget hi => exact a.describedTarget hi
  | evaluate hs negate hm => exact a.evaluate hs negate hm
  | require ht negate hm => exact a.require ht negate hm
  | message hv => exact a.message hv
  | summary hv => exact a.summary hv
  | declare h => exact hd _ _ _ _ h
  | recorder => exact newRecorder
  | serial => exact freshSerial

/-! ### Examples -/

theorem makeOutcome (tag : Tag) {d d' v v' : Value U} (hd : K.value d d') (hv : K.value v v') :
    T.Runs Eq (e.makeOutcome tag d v) (e'.makeOutcome tag d' v') := by
  refine .get fun m w w' hw => ?_
  obtain ⟨t, ht, -⟩ := T.outside hw
  rw [a.surface.recordText? hd ht, a.surface.recordText? hv ht]
  split
  · exact .pure rfl
  · exact a.complain _

theorem noticeOf {v v' : Value U} (hv : K.value v v') (n : String → Notice) :
    T.Runs Eq (e.noticeOf v n) (e'.noticeOf v' n) :=
  a.notice ((a.surface.textOf hv).bind_eq fun _ => .pure rfl)

theorem finish (tag : Tag) {d d' v v' : Value U} (hd : K.value d d') (hv : K.value v v') :
    T.Runs Eq (e.finish tag d v) (e'.finish tag d' v') :=
  (a.noticeOf hd _).bind_eq fun _ => a.makeOutcome tag hd hv

theorem conclude {v v' : Value U} (hv : K.value v v') {err err' : Exn (Value U)} (he : K.Exn err err') :
    T.Runs Eq (e.conclude v err) (e'.conclude v' err') := by
  have hfinish (tag : Tag) := (a.step (a.surface.errorText he)).bind_eq
    (Q := Eq) fun text => a.finish tag hv (Kinship.text text)
  have hthrown {f f' : Value U} (hf : K.value f f') := (a.step (a.surface.describeFault hf)).bind_eq
    (Q := Eq) fun text => a.finish .errored hv (Kinship.text text)
  refine .get fun m w w' hw => ?_
  obtain ⟨t, ht, -⟩ := T.outside hw
  rw [a.surface.kindOf he ht]
  split
  · exact .raise he
  · exact .raise he
  · exact hfinish .failed
  · exact hfinish .errored
  all_goals
    cases he with
    | thrown hf => exact hthrown hf
    | _ => exact .raise (by constructor <;> assumption)

theorem succeed {i i' : Nat} (hi : K.scope i i') {v v' : Value U} (hv : K.value v v') :
    T.Runs Eq (e.succeed i v) (e'.succeed i' v') := by
  refine (scope hi).bind fun s s' hs => ?_
  have hlast : Option.Rel K.Verdict s.successes.getLast? s'.successes.getLast? := by
    have hr := List.rel_reverse hs.successes
    rw [← List.head?_reverse, ← List.head?_reverse]
    generalize s.successes.reverse = l at hr ⊢
    generalize s'.successes.reverse = l' at hr ⊢
    cases hr with
    | nil => exact .none
    | cons h => exact .some h
  generalize s.successes.getLast? = o at hlast ⊢
  generalize s'.successes.getLast? = o' at hlast ⊢
  cases hlast with
  | some h => exact (a.summary h).bind_eq fun text => a.finish .passed hv (Kinship.text text)
  | none => exact a.finish .passed hv hv

theorem skip {x x' : Example (Value U)} (hm : K.value x.pendingMessage x'.pendingMessage) {v v' : Value U}
    (hv : K.value v v') : T.Runs Eq (e.skip x v) (e'.skip x' v') := by
  refine (a.noticeOf hv _).bind_eq fun _ => .get fun m w w' hw => ?_
  obtain ⟨t, ht, -⟩ := T.outside hw
  rw [a.surface.holds hm ht]
  split
  · exact a.makeOutcome _ hv hm
  · exact a.makeOutcome _ hv (Kinship.text _)

/-- Examples that are alike run in step. -/
theorem runExample {ev ev' : Evaluator (Value U)} (hev : ev.Like K.value ev') {x x' : Example (Value U)}
    (hx : K.owner x x') : T.Runs Eq (e.runExample ev x) (e'.runExample ev' x') := by
  refine .get fun m w w' hw => (a.step (a.surface.displayName hx (T.chain hw hx))).bind fun d d' hd => ?_
  have hbody := K.body hx
  have hpending := K.pending hx
  generalize x.body = o at hbody hpending ⊢
  generalize x'.body = o' at hbody ⊢
  cases hbody with
  | none => exact a.skip (hpending rfl) hd
  | some hb =>
    refine (openScope hx hev).bind fun i i' hi => (a.noticeOf hd _).bind_eq fun _ => ?_
    refine (a.callWith hb (.cons (Kinship.ofScope hi) .nil)).attempt.bind fun r r' hr => ?_
    cases hr with
    | error he => exact a.conclude hd he
    | ok _ => exact a.succeed hi hd

end Abreast

/-! ## Levels -/

namespace Host

/-- Runs a program with `n` levels to go, as `Host.exec` does, but for the declarations, which `declare` makes. -/
def execWith (h : Host U S) (declare : Engine U S → Nat → Declaration (Value U) → Run U S Unit) :
    Nat → {α : Type} → Program U S α → Run U S α
  | 0, _, _ => Run.complain h.toSurface .tooDeep
  | n + 1, _, p => p.interp (Engine.performWith ⟨h, execWith h declare n⟩ (declare ⟨h, execWith h declare n⟩))

/-- The engine of a host is the one that makes declarations in the library's own way. -/
theorem engine_eq (h : Host U S) (n : Nat) : h.engine n = ⟨h, h.execWith (fun e => e.declare) n⟩ := by
  have hperform (e : Engine U S) : @Engine.performWith U S e e.declare = @Engine.perform U S e := by
    funext γ r
    cases r <;> rfl
  have hrun : @execWith U S h (fun e => e.declare) n = @exec U S h n := by
    induction n with
    | zero => rfl
    | succ n ih =>
      funext α p
      show p.interp (@Engine.performWith U S _ _) = p.interp (@Engine.perform U S _)
      rw [hperform, ih]
  unfold engine
  rw [hrun]

end Host

/-- Programs that are alike run in step if alike requests are answered in step. -/
theorem Program.Like.interp {T : Twin K S S'} {perform : {γ : Type} → Request U S γ → Run U S γ}
    {perform' : {γ : Type} → Request U S' γ → Run U S' γ}
    (hp : ∀ {γ γ' : Type} {R : γ → γ' → Prop} {r : Request U S γ} {r' : Request U S' γ'}, r.Like T R r' →
      T.Runs R (perform r) (perform' r'))
    (hs : ∀ (change : S' → S') (w : World U S'),
      perform' (.step (Action.modify change)) w = (.done (), w.withOutside (change w.outside)))
    {α α' : Type} {R : α → α' → Prop} {p : Program U S α} {p' : Program U S' α'} (h : Program.Like T R p p') :
    T.Runs R (p.interp perform) (p'.interp perform') := by
  induction h with
  | pure h => exact .pure h
  | bind _ _ ihp ihk => exact ihp.bind ihk
  | raise h => exact .raise h
  | attempt _ ih => exact ih.attempt
  | ask hr => exact hp hr
  | @aside α α' R p p' change hc _ ih =>
    intro m w w' hw
    obtain ⟨t, ht, hout⟩ := T.outside hw
    have haside : (Program.bind (.ask (.step (Action.modify change))) fun _ => p').interp perform' w' =
        p'.interp perform' (w'.withOutside (change w'.outside)) := Action.bind_done (hs change w')
    unfold Action.LikeAt
    rw [haside]
    exact ih m w _ (hout _ _ (hc t _ _ ht))

/-- Programs that are alike, of hosts that are, run in step. -/
theorem abreast_execWith {T : Twin K S S'} {h : Host U S} {h' : Host U S'} (hh : h.Like T h')
    {declare : Engine U S → Nat → Declaration (Value U) → Run U S Unit}
    {declare' : Engine U S' → Nat → Declaration (Value U) → Run U S' Unit}
    (hd : ∀ e e', e.host = h → Abreast T e e' → ∀ g g' d d', T.declares g d g' d' →
      T.Runs Eq (declare e g d) (declare' e' g' d'))
    (n : Nat) : Abreast T ⟨h, h.execWith declare n⟩ ⟨h', h'.execWith declare' n⟩ := by
  induction n with
  | zero => exact ⟨hh, fun _ => Abreast.refuse hh.toLike _⟩
  | succ n ih => exact ⟨hh, fun hp => hp.interp (fun hr => ih.perform hr (hd _ _ rfl ih)) fun _ _ => rfl⟩

end Exemplar

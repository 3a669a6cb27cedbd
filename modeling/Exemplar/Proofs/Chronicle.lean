import Exemplar.Proofs.Abreast
import Exemplar.Proofs.History

/-!
# Exemplar.Proofs.Chronicle — runs that are written down

A run can be written down while it goes: each change of the forest as it is made, the ends of blocks among them, and
each call of the specification's code. The record stands beside the specification's own state, where the code cannot
see it. Everything else goes as it did, and the record tells how the forest has come about.

* `Twin.Beside.program`: code does the same where something stands beside the state.
* `Host.recorded`: the host whose code writes down its calls.
* `Host.chronicler`: the engine that also writes down the changes; it is abreast of the plain one.
* `buildGroup_chronicle`: the tree that has been built is the one that its history leads to.
-/

namespace Exemplar

variable {U S : Type}

/-! ## States with something beside them -/

section
variable {L α : Type}

/-- The computation, which leaves alone what stands beside the state. -/
def Step.beside (x : Step U S α) : Step U (S × L) α := fun p => ((x p.1).1, (x p.1).2, p.2)

/-- The world without what stands beside the state. -/
def World.forget (w : World U (S × L)) : World U S :=
  ⟨w.outside.1, w.forest, w.scopes, w.recorders, w.serials, w.journal, w.verbose⟩

/-- The world with something beside the state. -/
def World.beside (w : World U S) (l : L) : World U (S × L) :=
  ⟨(w.outside, l), w.forest, w.scopes, w.recorders, w.serials, w.journal, w.verbose⟩

/-- The questions about values, asked of the state alone. -/
def Surface.beside (sf : Surface U S) : Surface U (S × L) where
  repr v := Step.beside (sf.repr v)
  str v := Step.beside (sf.str v)
  typeName v p := sf.typeName v p.1
  truthy u p := sf.truthy u p.1
  callable u p := sf.callable u p.1
  signature? v p := sf.signature? v p.1
  class? v p := sf.class? v p.1
  nameOf? v p := sf.nameOf? v p.1
  ownText? u p := sf.ownText? u p.1
  decoded? u p := sf.decoded? u p.1
  items? v p := sf.items? v p.1
  key v := Step.beside (sf.key v)
  equal a b := Step.beside (sf.equal a b)
  identical a b p := sf.identical a b p.1
  isInstance a b := Step.beside (sf.isInstance a b)
  minus a b := Step.beside (sf.minus a b)
  magnitude v := Step.beside (sf.magnitude v)
  atMost a b := Step.beside (sf.atMost a b)
  kind v p := sf.kind v p.1
  endsSequence v p := sf.endsSequence v p.1
  catches a b := Step.beside (sf.catches a b)
  complaint c p := ((sf.complaint c p.1).1, (sf.complaint c p.1).2, p.2)

/-- The request, made where something stands beside the state. -/
def Request.beside : Request U S α → Request U (S × L) α
  | .step x => .step (Step.beside x)
  | .observe f => .observe fun w => f w.forget
  | .note vs => .note vs
  | .call f vs => .call f vs
  | .lookup i v => .lookup i v
  | .access i name => .access i name
  | .describedTarget i => .describedTarget i
  | .evaluate s negate m => .evaluate s negate m
  | .require t negate m => .require t negate m
  | .message v => .message v
  | .summary v => .summary v
  | .declare g d => .declare g d
  | .recorder => .recorder
  | .serial => .serial

end

/-- The program, which leaves alone what stands beside the state. -/
def Program.beside {L : Type} : {α : Type} → Program U S α → Program U (S × L) α
  | _, .pure a => .pure a
  | _, .bind p k => .bind p.beside fun b => (k b).beside
  | _, .raise e => .raise e
  | _, .attempt p => .attempt p.beside
  | _, .ask r => .ask r.beside

/-! ## In step with what stands beside -/

/-- The twin holds a world beside one that has something beside its state: the state is the same, and the code of the
specification changes nothing but the state. -/
structure Twin.Beside {L : Type} (T : Twin (Kinship.same (U := U)) S (S × L)) : Prop where
  state {t : T.Tie} {s : S} {p : S × L} : T.tie t s p → p.1 = s
  moves {t : T.Tie} {s : S} {p : S × L} (s' : S) : T.tie t s p → T.tie t s' (s', p.2)
  forget {m : T.Mark} {w : World U S} {w' : World U (S × L)} : T.holds m w w' → w'.forget = w
  declares (g : Nat) (d : Declaration (Value U)) : T.declares g d g d

namespace Twin.Beside

variable {L α : Type} {T : Twin (Kinship.same (U := U)) S (S × L)} (b : T.Beside)
include b

/-- A computation does the same with something beside the state. -/
theorem step (x : Step U S α) : T.Steps Eq x (Step.beside x) := by
  intro t s p ht
  obtain rfl := b.state ht
  refine ⟨?_, b.moves _ ht⟩
  show Ending.Like _ _ (x p.1).1 (x p.1).1
  rcases (x p.1).1 with a | e | _
  · exact .done rfl
  · exact .raised (Kinship.same_refusal ▸ rfl)
  · exact .exhausted

theorem surface (sf : Surface U S) : Surface.Like T sf sf.beside where
  repr hv := hv ▸ b.step _
  str hv := hv ▸ b.step _
  typeName hv ht := by rw [hv, ← b.state ht]; rfl
  truthy hu ht := by rw [hu, ← b.state ht]; rfl
  callable hu ht := by rw [hu, ← b.state ht]; rfl
  signature? hv ht := by rw [hv, ← b.state ht]; rfl
  class? hv ht := by rw [hv, ← b.state ht]; rfl
  nameOf? hv ht := by rw [hv, ← b.state ht]; exact rel_eq ▸ rfl
  ownText? hu ht := by rw [hu, ← b.state ht]; rfl
  decoded? hu ht := by rw [hu, ← b.state ht]; rfl
  items? hv ht := by
    have hl : List.Forall₂ (Kinship.same (U := U)).value = Eq := List.forall₂_eq_eq_eq
    rw [hv, ← b.state ht, hl, rel_eq]
    rfl
  key hv := hv ▸ b.step _
  equal hv hv' := hv ▸ hv' ▸ b.step _
  identical hv hv' ht := by rw [hv, hv', ← b.state ht]; rfl
  isInstance hv hv' := hv ▸ hv' ▸ b.step _
  minus hv hv' := hv ▸ hv' ▸ b.step _
  magnitude hv := hv ▸ b.step _
  atMost hv hv' := hv ▸ hv' ▸ b.step _
  kind hv ht := by rw [hv, ← b.state ht]; rfl
  endsSequence hv ht := by rw [hv, ← b.state ht]; rfl
  catches hv hv' := hv ▸ hv' ▸ b.step _
  complaint c ht := by
    obtain rfl := b.state ht
    exact ⟨rfl, b.moves _ ht⟩

theorem request (r : Request U S α) : Request.Like T Eq r r.beside := by
  have hvalues (vs : List (Value U)) : List.Forall₂ (Kinship.same (U := U)).value vs vs :=
    List.forall₂_same.mpr fun _ _ => rfl
  cases r with
  | step x => exact .step (b.step x)
  | observe f => exact .observe fun m w w' h => b.forget h ▸ rfl
  | note vs => exact .note (hvalues vs)
  | call f vs => exact .call rfl (hvalues vs)
  | lookup i v => exact .lookup rfl rfl
  | access i name =>
    have ha : Access.Like (Kinship.same (U := U)).value = Eq := Access.like_eq
    exact ha ▸ .access rfl name
  | describedTarget i => exact .describedTarget rfl
  | evaluate s negate m =>
    have hs : s.Like (Kinship.same (U := U)).value s := by
      show s.Like Eq s
      rw [Source.like_eq]
    exact Kinship.same_verdict ▸ .evaluate hs negate (.refl m)
  | require t negate m =>
    have ht : t.Like (Kinship.same (U := U)).toHandles (Kinship.same (U := U)).value t := by
      show t.Like Handles.same Eq t
      rw [Target.like_eq]
    exact Kinship.same_verdict ▸ .require ht negate (.refl m)
  | message v => exact .message (.refl v)
  | summary v => exact .summary (.refl v)
  | declare g d => exact .declare (b.declares g d)
  | recorder => exact .recorder
  | serial => exact .serial

/-- A program does the same with something beside the state. -/
theorem program (p : Program U S α) : Program.Like T Eq p p.beside := by
  induction p with
  | pure a => exact .pure rfl
  | bind p k ihp ihk => exact .bind ihp fun c _ hc => hc ▸ ihk c
  | raise e => exact .raise (.refl e)
  | @attempt α p ih =>
    have h : Except.Like (Kinship.same (U := U)).Exn (@Eq α) = Eq := Kinship.same_exn ▸ Except.like_eq
    exact h ▸ ih.attempt
  | ask r => exact .ask (b.request r)

end Twin.Beside

/-! ## Records -/

/-- A call of the code of a specification. -/
inductive Invocation (U : Type) where
  | call (u : U) (vs : List (Value U))
  | contains (v container : Value U)
  | matchesActual (m v : Value U)
  | traitOf (m : Value U) (q : Trait)
  | judge (v : Value U) (source : Source (Value U)) (negate : Bool) (m : Matcher (Value U))

/-- What is written down of a run. -/
structure Record (U : Type) where
  changes : List (Change (Value U))
  calls : List (Invocation U)

/-- Nothing has been written down. -/
def Record.empty : Record U := ⟨[], []⟩

/-- The program, its call being written down first. -/
def Program.noting {α : Type} (c : Invocation U) (p : Program U S α) : Program U (S × Record U) α :=
  .bind (.ask (.step (Action.modify fun s => (s.1, { s.2 with calls := s.2.calls ++ [c] })))) fun _ => p.beside

/-- The host, all calls of whose code are written down. -/
def Host.recorded (h : Host U S) : Host U (S × Record U) where
  toSurface := h.toSurface.beside
  call u vs := (h.call u vs).noting (.call u vs)
  contains v c := (h.contains v c).noting (.contains v c)
  matchesActual m v := (h.matchesActual m v).noting (.matchesActual m v)
  traitOf m q := (h.traitOf m q).noting (.traitOf m q)
  judge v s negate m := (h.judge v s negate m).noting (.judge v s negate m)

/-! ## Writing down the changes -/

/-- The world after a change of its forest that has been written down. -/
def World.make (w : World U (S × Record U)) (c : Change (Value U)) : World U (S × Record U) :=
  { w with
    forest := w.forest.change c
    outside := (w.outside.1, { w.outside.2 with changes := w.outside.2.changes ++ [c] }) }

/-- Makes a change and writes it down. -/
def Run.make (c : Change (Value U)) : Run U (S × Record U) Unit := Action.modify (·.make c)

namespace Engine

variable (e : Engine U (S × Record U))

/-- `Engine.addRoot`, written down. -/
def addRootTold (description : Value U) : Run U (S × Record U) Nat := do
  let w ← Action.get
  let target := if e.surface.describesTarget description w.outside then some description else none
  Run.make (.root w.forest.groups.size description target)
  pure w.forest.groups.size

/-- `Engine.openChild`, written down. -/
def openChildTold (parent : Nat) (description : Value U) : Run U (S × Record U) Nat := do
  e.ensureOpen parent
  let w ← Action.get
  Run.make (.child w.forest.groups.size parent description)
  pure w.forest.groups.size

/-- `Engine.addExample`, written down. -/
def addExampleTold (group : Nat) (description : Value U) (body : Option (Value U)) (message : Value U) :
    Run U (S × Record U) (Example (Value U)) := do
  e.ensureOpen group
  let w ← Action.get
  let x : Example (Value U) := ⟨description, group, (w.forest.entries group).length, body, message⟩
  Run.make (.example x)
  pure x

/-- `Engine.define`, written down. -/
def defineTold (group : Nat) (name producer : Value U) : Run U (S × Record U) (Definition (Value U)) := do
  e.ensureOpen group
  let w ← Action.get
  let path ← e.step (e.surface.fullText w.forest group)
  let name ← e.step (e.surface.helperName name)
  let d : Definition (Value U) := ⟨name, w.forest.depth group, .callable producer, path⟩
  Run.make (.define group d)
  pure d

/-- `Engine.populate`, written down: the block ends when its call does, in whatever way. -/
def populateTold (group : Nat) (block : Value U) : Run U (S × Record U) Unit := do
  Action.ensure (do let _ ← e.callWith block [.builder group]; pure ()) (·.make (.ended group))
  let w ← Action.get
  let path ← e.step (e.surface.fullText w.forest group)
  e.notice (pure (.declaredGroup path (w.forest.entries group).length))

/-- `Engine.declare`, written down. -/
def declareTold (group : Nat) : Declaration (Value U) → Run U (S × Record U) Unit
  | .group description block =>
    if block.isAbsent then pure ()
    else do
      let child ← e.openChildTold group description
      e.populateTold child block
  | .helper name producer => do
    e.step (e.surface.checkName name)
    if producer.isAbsent then pure ()
    else
      let _ ← e.defineTold group name producer
      let w ← Action.get
      e.notice do
        let text ← e.surface.textOf name
        pure (.definedHelper text (w.forest.depth group))
  | .example description body => do
    let w ← Action.get
    let (description, body) := e.exampleParts description body w.outside
    if body.isAbsent then
      let message := if e.surface.holds description w.outside then description else .text defaultPendingMessage
      let _ ← e.addExampleTold group description none message
    else
      let _ ← e.addExampleTold group description (some body) .absent
  | .pending message => do
    let _ ← e.addExampleTold group message none message
  | .define name producer => do
    let _ ← e.defineTold group name producer
  | .close => Run.make (.closed group)

/-- `Engine.buildGroup`, written down. A root without a block has none that could run. -/
def buildGroupTold (description block : Value U) : Run U (S × Record U) Nat := do
  let root ← e.addRootTold description
  if block.isAbsent then Run.make (.ended root)
  else e.populateTold root block
  pure root

end Engine

/-- The engine with `n` levels to go that writes down all changes and all calls. -/
def Host.chronicler (h : Host U S) (n : Nat) : Engine U (S × Record U) :=
  ⟨h.recorded, h.recorded.execWith (fun e => e.declareTold) n⟩

/-! ## The plain run and the recorded one -/

/-- The recorded world is the plain one with a record beside it. The forest has come about by the changes that are
written down, all of them admissible, and since the mark `m` was made all blocks that have begun have ended. -/
structure Told (sf : Surface U S) (f₀ : Forest (Value U)) (m : List (Change (Value U))) (w : World U S)
    (w' : World U (S × Record U)) : Prop where
  forget : w'.forget = w
  forest : w'.forest = f₀.after w'.outside.2.changes
  sound : f₀.Sound sf w'.outside.2.changes
  whole : ∃ cs, w'.outside.2.changes = m ++ cs ∧ Change.Whole cs

namespace Told

variable {sf : Surface U S} {f₀ : Forest (Value U)} {m : List (Change (Value U))} {w : World U S}
  {w' : World U (S × Record U)}

/-- Nothing about the forest and the changes is different. -/
theorem congr (h : Told sf f₀ m w w') {v : World U S} {v' : World U (S × Record U)} (hf : v'.forget = v)
    (hforest : v'.forest = w'.forest) (hc : v'.outside.2.changes = w'.outside.2.changes) : Told sf f₀ m v v' :=
  ⟨hf, hforest.trans (hc ▸ h.forest), hc ▸ h.sound, hc ▸ h.whole⟩

theorem forest_eq (h : Told sf f₀ m w w') : w'.forest = w.forest := h.forget ▸ rfl

/-- An admissible change, made on both sides. -/
theorem make (h : Told sf f₀ m w w') {c : Change (Value U)} (hc : w.forest.Admits sf c) {k : List (Change (Value U))}
    (hw : ∃ cs, w'.outside.2.changes ++ [c] = k ++ cs ∧ Change.Whole cs) :
    Told sf f₀ k (w.withForest (w.forest.change c)) (w'.make c) where
  forget := h.forget ▸ rfl
  forest := by
    show w'.forest.change c = f₀.after (w'.outside.2.changes ++ [c])
    rw [h.forest, Forest.after_concat]
  sound := Forest.sound_concat.mpr ⟨h.sound, h.forest ▸ h.forest_eq ▸ hc⟩
  whole := hw

/-- A change that neither begins nor ends a block keeps the mark. -/
theorem make_single (h : Told sf f₀ m w w') {c : Change (Value U)} (hc : w.forest.Admits sf c)
    (hs : c.isFlat = true) : Told sf f₀ m (w.withForest (w.forest.change c)) (w'.make c) := by
  obtain ⟨cs, he, hw⟩ := h.whole
  exact h.make hc ⟨cs ++ [c], by rw [he, List.append_assoc], hw.append (.flat hs .nil)⟩

/-- What has been done since a mark counts as done since an earlier one. -/
theorem weaken {cs : List (Change (Value U))} (h : Told sf f₀ (m ++ cs) w w') (hcs : Change.Whole cs) :
    Told sf f₀ m w w' := by
  obtain ⟨ds, he, hds⟩ := h.whole
  exact ⟨h.forget, h.forest, h.sound, cs ++ ds, by rw [he, List.append_assoc], hcs.append hds⟩

end Told

/-- A plain world and a recorded one are twins if the one is told by the other. -/
def Twin.told (sf : Surface U S) (f₀ : Forest (Value U)) : Twin (Kinship.same (U := U)) S (S × Record U) where
  Mark := List (Change (Value U))
  holds := Told sf f₀
  Tie := List (Change (Value U))
  tie cs s p := p.1 = s ∧ p.2.changes = cs
  declares g d g' d' := g' = g ∧ d' = d
  outside {m w w'} h := by
    refine ⟨w'.outside.2.changes, ⟨h.forget ▸ rfl, rfl⟩, fun s p hp => ?_⟩
    obtain ⟨rfl, hc⟩ := hp
    exact h.congr (h.forget ▸ rfl) rfl hc
  verbose h := h.forget ▸ rfl
  records h hev := by
    obtain rfl := Event.like_eq ▸ hev
    exact h.congr (h.forget ▸ rfl) rfl rfl
  counts h := ⟨h.forget ▸ rfl, h.congr (h.forget ▸ rfl) rfl rfl⟩
  recorders h := ⟨h.forget ▸ rfl, h.congr (h.forget ▸ rfl) rfl rfl⟩
  meets h hr hv := by
    obtain rfl := hr
    obtain rfl := hv
    exact h.congr (h.forget ▸ rfl) rfl rfl
  recorded h hr := by
    obtain rfl := hr
    exact h.forget ▸ rfl
  scope? h hi := by
    obtain rfl := hi
    rw [Kinship.same_scope, rel_eq]
    exact h.forget ▸ rfl
  updates {m w w' i i' c c'} h hi hc := by
    obtain rfl := hi
    rw [Kinship.same_scope] at hc
    obtain rfl : c = c' := funext fun s => hc s s rfl
    exact h.congr (h.forget ▸ rfl) rfl rfl
  opens h hx hev := by
    obtain rfl := hx
    obtain rfl := Evaluator.like_eq ▸ hev
    exact ⟨h.forget ▸ rfl, h.congr (h.forget ▸ rfl) rfl rfl⟩
  chain h hx := by
    obtain rfl := hx
    rw [h.forest_eq]
    exact .refl _ _

theorem Twin.told_beside (sf : Surface U S) (f₀ : Forest (Value U)) : (Twin.told sf f₀).Beside where
  state h := h.1
  moves _ h := ⟨rfl, h.2⟩
  forget h := h.forget
  declares _ _ := ⟨rfl, rfl⟩

section
variable {sf : Surface U S} {f₀ : Forest (Value U)} {α : Type}

theorem Program.like_noting (c : Invocation U) (p : Program U S α) :
    Program.Like (Twin.told sf f₀) Eq p (p.noting c) :=
  .aside (fun _ _ _ ht => ht) ((Twin.told_beside sf f₀).program p)

theorem Host.like_recorded (h : Host U S) : Host.Like (Twin.told sf f₀) h h.recorded where
  toLike := (Twin.told_beside sf f₀).surface h.toSurface
  call {u u' vs vs'} hu hvs := by
    obtain rfl : u = u' := hu
    obtain rfl : vs = vs' := List.forall₂_eq_eq_eq ▸ hvs
    exact Program.like_noting _ _
  contains {v v' c c'} hv hc := by
    obtain rfl : v = v' := hv
    obtain rfl : c = c' := hc
    exact Program.like_noting _ _
  matchesActual {m m' v v'} hm hv := by
    obtain rfl : m = m' := hm
    obtain rfl : v = v' := hv
    exact Program.like_noting _ _
  traitOf {m m'} q hm := by
    obtain rfl : m = m' := hm
    exact rel_eq (α := Value U) ▸ Program.like_noting _ _
  judge {v v' s s' m m'} negate hv hs hm := by
    obtain rfl : v = v' := hv
    obtain rfl : s = s' := Source.like_eq ▸ hs
    obtain rfl : m = m' := Kinship.same_matcher ▸ hm
    exact Kinship.same_verdict ▸ Program.like_noting _ _

end

/-! ## Declarations -/

/-- Two sides that answer alike refuse the same names. -/
theorem Surface.Like.checkName {S' : Type} {T : Twin (Kinship.same (U := U)) S S'} {sf : Surface U S}
    {sf' : Surface U S'} (a : sf.Like T sf') (name : Value U) :
    T.Steps Eq (sf.checkName name) (sf'.checkName name) := by
  have hraise (err : AuthoringError) : T.Steps Eq (Step.raise (.authoring err) : Step U S Unit)
      (Step.raise (.authoring err)) := .raise (.raised (.authoring err))
  refine .get fun cs s s' ht => ?_
  rw [a.text? rfl ht]
  split
  · split
    · exact .pure rfl
    · exact hraise _
  · exact (a.textOf rfl).bind_eq fun text => hraise _

namespace Twin.Beside

variable {L : Type} {T : Twin (Kinship.same (U := U)) S (S × L)} (b : T.Beside) {e : Engine U S} {e' : Engine U (S × L)}
  (a : Abreast T e e')
include b

theorem forest_eq {m : T.Mark} {w : World U S} {w' : World U (S × L)} (hw : T.holds m w w') : w'.forest = w.forest :=
  b.forget hw ▸ rfl

include a

theorem fullText {m : T.Mark} {w : World U S} {w' : World U (S × L)} (hw : T.holds m w w') (g : Nat) :
    T.Runs Eq (e.step (e.surface.fullText w.forest g)) (e'.step (e'.surface.fullText w'.forest g)) :=
  a.step (a.surface.fullText (b.forest_eq hw ▸ (Kinship.Chain.refl w.forest g).levels))

theorem ensureOpen (g : Nat) : T.Runs Eq (e.ensureOpen g) (e'.ensureOpen g) := by
  refine .get fun m w w' hw => .ite ?_ ((b.fullText a hw g).bind_eq fun path => .raise (.refl _)) (.pure rfl)
  rw [b.forest_eq hw]

omit b in
theorem checkName (name : Value U) : T.Steps Eq (e.surface.checkName name) (e'.surface.checkName name) :=
  a.surface.checkName name

end Twin.Beside

namespace Abreast

variable {sf : Surface U S} {f₀ : Forest (Value U)} {e : Engine U S} {e' : Engine U (S × Record U)}
  (a : Abreast (Twin.told sf f₀) e e')
include a

/-- What is done once the group is known to be open. -/
theorem opened {α α' : Type} {R : α → α' → Prop} {g : Nat} {k : Run U S α} {k' : Run U (S × Record U) α'}
    (hk : ∀ m w w', Told sf f₀ m w w' → w.forest.isSealed g = false →
      Action.LikeAt (Told sf f₀) (Kinship.same (U := U)).Exn R m w w' k k') :
    (Twin.told sf f₀).Runs R (e.ensureOpen g >>= fun _ => k) (e'.ensureOpen g >>= fun _ => k') := by
  refine fun m w w' hw => ((Twin.told_beside sf f₀).ensureOpen a g m w w' hw).bind fun _ _ t t' h _ _ ht => ?_
  obtain ⟨ho, rfl⟩ := e.ensureOpen_done h
  exact hk m _ _ ht ho

theorem addExample (g : Nat) (d : Value U) (body : Option (Value U)) (message : Value U) :
    (Twin.told sf f₀).Runs Eq (e.addExample g d body message) (e'.addExampleTold g d body message) := by
  refine a.opened fun m w w' hw ho => ?_
  obtain rfl := hw.forget
  exact ⟨.done rfl, hw.make_single (c := .example ⟨d, g, (w'.forest.entries g).length, body, message⟩) ⟨ho, rfl⟩ rfl⟩

theorem define (hs : e.surface = sf) (g : Nat) (name producer : Value U) :
    (Twin.told sf f₀).Runs Eq (e.define g name producer) (e'.defineTold g name producer) := by
  refine a.opened fun m w w' hw ho => ?_
  obtain rfl := hw.forget
  have hpath := (Twin.told_beside sf f₀).fullText a hw g m _ _ hw
  refine .get (Action.LikeAt.bind hpath fun path _ t t' h₁ _ hpath ht => ?_)
  subst hpath
  obtain ⟨s, hpath, rfl⟩ := e.step_done h₁
  refine Action.LikeAt.bind (a.step (a.surface.helperName rfl) m _ _ ht) fun n n' t t' h₂ _ hn ht => ?_
  obtain rfl : n = n' := Kinship.same_name ▸ hn
  obtain ⟨s', -, rfl⟩ := e.step_done h₂
  refine ⟨.done rfl, ht.make_single (c := .define g ⟨n, w'.forest.depth g, .callable producer, path⟩) ?_ rfl⟩
  exact ⟨ho, rfl, ⟨producer, rfl⟩, w'.outside.1, s, hs ▸ hpath⟩

/-- A block runs with everything that it declares, and then its end is written down. -/
theorem block {m : List (Change (Value U))} {w : World U S} {w' : World U (S × Record U)} {c : Change (Value U)}
    (hw : Told sf f₀ m w w') (hc : w.forest.Admits sf c) (g : Nat) (b : Value U) :
    ∃ cs, Change.Whole cs ∧ Action.LikeAt (Told sf f₀) (Kinship.same (U := U)).Exn Eq
      (w'.outside.2.changes ++ (c :: cs ++ [.ended g])) (w.withForest (w.forest.change c)) (w'.make c)
      (Action.ensure (do let _ ← e.callWith b [.builder g]; pure ())
        fun w => { w with forest := w.forest.closeGroup g })
      (Action.ensure (do let _ ← e'.callWith b [.builder g]; pure ()) (·.make (.ended g))) := by
  have hbuilder : (Kinship.same (U := U)).value (.builder g) (.builder g) := rfl
  have hcall : (Twin.told sf f₀).Runs Eq (do let _ ← e.callWith b [.builder g]; pure ())
      (do let _ ← e'.callWith b [.builder g]; pure ()) :=
    (a.callWith rfl (.cons hbuilder .nil)).bind fun _ _ _ => .pure rfl
  have hstart := hw.make hc (k := w'.outside.2.changes ++ [c]) ⟨[], by simp, .nil⟩
  obtain ⟨hend, hafter⟩ := hcall _ _ _ hstart
  obtain ⟨cs, he, hcs⟩ := hafter.whole
  exact ⟨cs, hcs, hend, hafter.make (c := .ended g) trivial ⟨[], by rw [he]; simp, .nil⟩⟩

theorem populate {m : List (Change (Value U))} {w : World U S} {w' : World U (S × Record U)} {c : Change (Value U)}
    (hw : Told sf f₀ m w w') (hc : w.forest.Admits sf c) (g : Nat) (b : Value U) :
    ∃ cs, Change.Whole cs ∧ Action.LikeAt (Told sf f₀) (Kinship.same (U := U)).Exn Eq
      (w'.outside.2.changes ++ (c :: cs ++ [.ended g])) (w.withForest (w.forest.change c)) (w'.make c)
      (e.populate g b) (e'.populateTold g b) := by
  obtain ⟨cs, hcs, hb⟩ := a.block hw hc g b
  refine ⟨cs, hcs, hb.bind fun _ _ t t' _ _ _ ht => ?_⟩
  obtain rfl := ht.forget
  have hpath := (Twin.told_beside sf f₀).fullText a ht g _ _ _ ht
  refine .get (Action.LikeAt.bind hpath fun path _ t t' _ _ hpath ht' => ?_)
  subst hpath
  exact a.notice (.pure rfl) _ _ _ ht'

/-- A declaration does the same when it is written down. -/
theorem declare (hs : e.surface = sf) (g : Nat) (d : Declaration (Value U)) :
    (Twin.told sf f₀).Runs Eq (e.declare g d) (e'.declareTold g d) := by
  cases d with
  | group d b =>
    refine .ite rfl (.pure rfl) ?_
    unfold Engine.openChild Engine.openChildTold
    rw [bind_assoc (e.ensureOpen g), bind_assoc (e'.ensureOpen g)]
    refine a.opened fun m w w' hw ho => ?_
    obtain rfl := hw.forget
    obtain ⟨cs, he, hcs⟩ := hw.whole
    obtain ⟨ds, hds, hend, hafter⟩ := a.populate hw (c := .child w'.forest.groups.size g d) ⟨ho, rfl⟩ _ b
    rw [he, List.append_assoc] at hafter
    exact ⟨hend, hafter.weaken (hcs.append (.block hds .nil))⟩
  | helper name producer =>
    refine (a.step (Twin.Beside.checkName a name)).bind_eq fun _ => .ite rfl (.pure rfl) ?_
    refine (a.define hs g name producer).bind_eq fun _ => .get fun m w w' hw => ?_
    obtain rfl := hw.forget
    exact a.notice ((a.surface.textOf rfl).bind_eq fun _ => .pure rfl)
  | «example» d b =>
    refine .get fun m w w' hw => ?_
    obtain ⟨cs, ht, -⟩ := (Twin.told sf f₀).outside hw
    have hparts : e'.exampleParts d b w'.outside = e.exampleParts d b w.outside := by
      unfold Engine.exampleParts
      rw [a.surface.isCallable (v := d) rfl ht]
    rw [hparts]
    obtain ⟨d, b⟩ := e.exampleParts d b w.outside
    refine .ite rfl ?_ ((a.addExample _ _ _ _).bind_eq fun _ => .pure rfl)
    rw [a.surface.holds (v := d) rfl ht]
    exact (a.addExample _ _ _ _).bind_eq fun _ => .pure rfl
  | pending message => exact (a.addExample _ _ _ _).bind_eq fun _ => .pure rfl
  | define name producer => exact (a.define hs _ _ _).bind_eq fun _ => .pure rfl
  | close => exact fun m w w' hw => ⟨.done rfl, hw.make_single (c := .closed g) trivial rfl⟩

end Abreast

/-- The engine that writes everything down is abreast of the plain one. -/
theorem Host.abreast_chronicler (h : Host U S) (f₀ : Forest (Value U)) (n : Nat) :
    Abreast (Twin.told h.toSurface f₀) (h.engine n) (h.chronicler n) := by
  rw [h.engine_eq]
  refine abreast_execWith h.like_recorded (fun e e' he a g g' d d' hd => ?_) n
  obtain ⟨rfl, rfl⟩ := hd
  exact a.declare (congrArg Host.toSurface he) g' d'

/-! ## Trees -/

/-- The declaration of a tree, written down from its beginning on. -/
def Host.toldTree (h : Host U S) (n : Nat) (description block : Value U) (w : World U S) :
    Ending (Exn (Value U)) Nat × World U (S × Record U) :=
  (h.chronicler n).buildGroupTold description block (w.beside .empty)

/-- The history of a tree: the changes that are made while it is declared. -/
def Host.chronicle (h : Host U S) (n : Nat) (description block : Value U) (w : World U S) : List (Change (Value U)) :=
  (h.toldTree n description block w).2.outside.2.changes

/-- The target of a root with this description. -/
def Surface.targetOf (sf : Surface U S) (description : Value U) (s : S) : Option (Value U) :=
  if sf.describesTarget description s then some description else none

/-- A tree that is declared while the run is written down is the tree that is declared otherwise, and the forest is the
one that the history leads to. The history begins with the root and tells the end of its block; each change was
admissible, and blocks end in the reverse order of their beginning. -/
theorem Host.buildGroup_chronicle (h : Host U S) (n : Nat) (description block : Value U) (w : World U S) :
    (h.engine n).buildGroup description block w =
      ((h.toldTree n description block w).1, (h.toldTree n description block w).2.forget) ∧
    ((h.engine n).buildGroup description block w).2.forest = w.forest.after (h.chronicle n description block w) ∧
    w.forest.Sound h.toSurface (h.chronicle n description block w) ∧
    ∃ cs ds, h.chronicle n description block w =
        .root w.forest.groups.size description (h.toSurface.targetOf description w.outside) ::
          (cs ++ .ended w.forest.groups.size :: ds) ∧
      Change.Whole cs ∧ Change.Whole ds ∧ (block.isAbsent = true → cs = [] ∧ ds = []) := by
  have a := h.abreast_chronicler w.forest n
  have hstart : Told h.toSurface w.forest [] w (w.beside .empty) := ⟨rfl, rfl, trivial, [], rfl, .nil⟩
  set id := w.forest.groups.size
  set root : Change (Value U) := .root id description (h.toSurface.targetOf description w.outside)
  have hroot : w.forest.Admits h.toSurface root := rfl
  obtain ⟨cs, hcs, habsent, hend, ht⟩ : ∃ cs, Change.Whole cs ∧
      (block.isAbsent = true → cs = [] ∧ h.chronicle n description block w = [root, .ended id]) ∧
      Action.LikeAt (Told h.toSurface w.forest) (Kinship.same (U := U)).Exn Eq (root :: cs ++ [.ended id]) w
        (w.beside .empty) ((h.engine n).buildGroup description block)
        ((h.chronicler n).buildGroupTold description block) := by
    unfold Host.chronicle Host.toldTree Engine.buildGroup Engine.buildGroupTold
    cases block.isAbsent with
    | true =>
      have hopen := hstart.make hroot (k := [root]) ⟨[], rfl, .nil⟩
      have hended := hopen.make (c := .ended id) trivial (k := [root, .ended id]) ⟨[], rfl, .nil⟩
      exact ⟨[], .nil, fun _ => ⟨rfl, rfl⟩, .done rfl, hended⟩
    | false =>
      obtain ⟨cs, hcs, hp⟩ := a.populate hstart hroot id block
      exact ⟨cs, hcs, nofun, hp.bind fun _ _ t t' _ _ _ ht => ⟨.done rfl, ht⟩⟩
  obtain ⟨ds, he, hds⟩ := ht.whole
  refine ⟨?_, ?_, ht.sound, cs, ds, ?_, hcs, hds, fun hb => ?_⟩
  · exact Prod.ext hend.eq ht.forget.symm
  · exact ht.forget ▸ ht.forest
  · exact he.trans (by simp)
  · obtain ⟨rfl, he'⟩ := habsent hb
    have hnil := he'.symm.trans he
    exact ⟨rfl, by simpa using hnil⟩

end Exemplar

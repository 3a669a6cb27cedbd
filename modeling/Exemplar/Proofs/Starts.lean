import Exemplar.Proofs.Chronicle
import Exemplar.Proofs.Scopes

/-!
# Exemplar.Proofs.Starts — which definitions run

While a program runs, it can be noted beside the specification's own state which definitions begin to run: the innermost
definition of a name because the name is looked up, any other because the function outward of the definition before it
is called. Nothing else goes differently.

* `Host.starts`: the starts that are noted while a program runs.
* `Host.abreast_noter`: noting makes no difference, each run that is noted is a new one, and one that is started by a
  function outward goes on where that function leads.
* `Host.noter_but`: as long as a name is kept or being computed, no lookup of it starts a run.
-/

namespace Exemplar

variable {U S α : Type}

/-! ## Starts -/

/-- What a definition is run for. -/
inductive Origin (U : Type) where
  | lookup (name : HelperName (Value U))
  | outward (c : OuterCall (Value U))

/-- The start of a run of a definition. -/
structure Start (U : Type) where
  run : OuterCall (Value U)
  origin : Origin U

/-- Which lookups of names on scopes are heeded. -/
abbrev Heed (U : Type) := Nat → HelperName (Value U) → Bool

/-- All lookups are heeded. -/
def Heed.all : Heed U := fun _ _ => true

/-- All lookups are heeded but those of one name on one scope. -/
def Heed.but (id : Nat) (name : HelperName (Value U)) : Heed U := fun i m => !(i == id && m.same name)

/-- The lookup that the run is for is heeded, or the function outward that it is for leads to it. -/
def Start.Follows (heeds : Heed U) (b : Start U) : Prop :=
  match b.origin with
  | .lookup name => heeds b.run.scope name = true
  | .outward c => b.run.scope = c.scope ∧ c.outward = b.run.current :: b.run.outward

/-- The world after a start that is noted if it is heeded. -/
def World.start (w : World U (S × List (Start U))) (heeded : Bool) (b : Start U) : World U (S × List (Start U)) :=
  if heeded then w.withOutside (w.outside.1, w.outside.2 ++ [b]) else w

/-- Notes a start if it is heeded. -/
def Run.start (heeded : Bool) (b : Start U) : Run U (S × List (Start U)) Unit := Action.modify (·.start heeded b)

theorem Run.start_apply (heeded : Bool) (b : Start U) (w : World U (S × List (Start U))) :
    Run.start heeded b w = (.done (), w.start heeded b) := rfl

/-- The host, with something beside its state. -/
def Host.beside {L : Type} (h : Host U S) : Host U (S × L) where
  toSurface := h.toSurface.beside
  call u vs := (h.call u vs).beside
  contains v c := (h.contains v c).beside
  matchesActual m v := (h.matchesActual m v).beside
  traitOf m q := (h.traitOf m q).beside
  judge v s negate m := (h.judge v s negate m).beside

/-! ## Noting the starts -/

namespace Engine

variable (e : Engine U (S × List (Start U))) (heeds : Heed U)

/-- `Engine.callOuter`, the start being noted. -/
def callOuterNoted (c : OuterCall (Value U)) : Run U (S × List (Start U)) (Value U) :=
  match c.outward with
  | d :: rest => do
    let serial ← Run.freshSerial
    Run.start true ⟨⟨serial, c.scope, d, rest⟩, .outward c⟩
    e.produce ⟨serial, c.scope, d, rest⟩
  | [] => e.callOuter c

/-- `Engine.compute`, the start being noted. -/
def computeNoted (id : Nat) (scope : Scope (Value U)) (name : HelperName (Value U)) :
    Run U (S × List (Start U)) (Value U) := do
  let w ← Action.get
  let definitions ← e.step (e.surface.definitionsFor w.forest scope.owner.group name)
  match definitions.reverse with
  | [] => e.raiseUndefined scope name
  | d :: outward =>
    let serial ← Run.freshSerial
    Run.start (heeds id name) ⟨⟨serial, id, d, outward⟩, .lookup name⟩
    let v ← whileComputing id name (e.produce ⟨serial, id, d, outward⟩)
    Run.changeScope id fun s => { s with memo := s.memo ++ [(name, v)] }
    e.notice (e.resolvedNotice name definitions.length)
    pure v

/-- `Engine.lookupName`, the starts being noted. -/
def lookupNameNoted (id : Nat) (name : HelperName (Value U)) : Run U (S × List (Start U)) (Value U) := do
  let scope ← Run.scope id
  match scope.kept? name with
  | some v => pure v
  | none =>
    match scope.pathFrom? name with
    | some path => e.raiseCircular scope path name
    | none => e.computeNoted heeds id scope name

/-- `Engine.lookup`, the starts being noted. -/
def lookupNoted (id : Nat) (name : Value U) : Run U (S × List (Start U)) (Value U) := do
  let name ← e.step (e.surface.helperName name)
  e.lookupNameNoted heeds id name

/-- `Engine.access`, the starts being noted. -/
def accessNoted (id : Nat) (name : String) : Run U (S × List (Start U)) (Access (Value U)) :=
  match Member.named? name with
  | some .describedTarget => do
    let v ← e.describedTarget id
    pure (.value v)
  | some m => pure (.member m)
  | none =>
    if isPrivate name then e.complain (.privateName name)
    else do
      let v ← e.lookupNoted heeds id (.text name)
      pure (.value v)

/-- `Engine.answerCall`, the starts being noted. -/
def answerCallNoted (f : Value U) (args : List (Value U)) : Run U (S × List (Start U)) (Value U) :=
  match f with
  | .outer c =>
    if args.isEmpty then e.callOuterNoted c
    else e.complain (.refusedCall "outer" (.tooMany 0 0 args.length))
  | .subjectOf _ scope =>
    if args.isEmpty then e.lookupNameNoted heeds scope .subject
    else e.complain (.refusedCall "subject" (.tooMany 0 0 args.length))
  | f => e.answerCall f args

/-- `Engine.perform`, the starts being noted. -/
def performNoted {α : Type} : Request U (S × List (Start U)) α → Run U (S × List (Start U)) α
  | .call f args => e.answerCallNoted heeds f args
  | .lookup scope name => e.lookupNoted heeds scope name
  | .access scope name => e.accessNoted heeds scope name
  | r => e.perform r

section
variable {e heeds} {w : World U (S × List (Start U))}

theorem callOuterNoted_of_nil {c : OuterCall (Value U)} (hc : c.outward = []) : e.callOuterNoted c = e.callOuter c := by
  rw [callOuterNoted, hc]

theorem lookupNameNoted_of_miss {id : Nat} {s : Scope (Value U)} {name : HelperName (Value U)}
    (hs : w.scope? id = some s) (hk : s.kept? name = none) (hp : s.pathFrom? name = none) :
    e.lookupNameNoted heeds id name w = e.computeNoted heeds id s name w := by
  have hscope : (Run.scope id : Run U (S × List (Start U)) _) w = (.done s, w) := by rw [Run.scope_apply, hs]
  rw [lookupNameNoted, Action.bind_done hscope, hk, hp]

/-- The innermost definition starts, and its value is kept. -/
theorem computeNoted_of_cons {id : Nat} {s : Scope (Value U)} {name : HelperName (Value U)} {t : S × List (Start U)}
    {ds : List (Definition (Value U))} {d : Definition (Value U)} {outward : List (Definition (Value U))}
    (hd : e.surface.definitionsFor w.forest s.owner.group name w.outside = (.done ds, t))
    (hr : ds.reverse = d :: outward) :
    e.computeNoted heeds id s name w =
      match e.produce ⟨w.serials, id, d, outward⟩ (((w.withOutside t).counted.start (heeds id name)
          ⟨⟨w.serials, id, d, outward⟩, .lookup name⟩).enter id name) with
      | (.done v, w') => (e.notice (e.resolvedNotice name ds.length) >>= fun _ => pure v) ((w'.leave id).keep id name v)
      | (.raised err, w') => (.raised err, w'.leave id)
      | (.exhausted, w') => (.exhausted, w'.leave id) := by
  have hfresh : (Run.freshSerial : Run U (S × List (Start U)) Nat) (w.withOutside t) =
      (.done w.serials, (w.withOutside t).counted) := rfl
  rw [computeNoted, Action.get_bind_apply, Action.bind_done (e.step_of_done hd), hr]
  dsimp only
  rw [Action.bind_done hfresh, Action.bind_done (Run.start_apply ..)]
  rw [computing_apply]
  rcases e.produce ⟨w.serials, id, d, outward⟩ _ with ⟨_ | _ | _, _⟩ <;> rfl

end
end Engine

namespace Host

/-- Runs a program with `n` levels to go as `Host.exec` does, the starts being noted. -/
def execNoted (h : Host U (S × List (Start U))) (heeds : Heed U) :
    Nat → {α : Type} → Program U (S × List (Start U)) α → Run U (S × List (Start U)) α
  | 0, _, _ => Run.complain h.toSurface .tooDeep
  | n + 1, _, p => p.interp (Engine.performNoted ⟨h, execNoted h heeds n⟩ heeds)

variable (h : Host U S) (heeds : Heed U) (n : Nat)

/-- The engine with `n` levels to go that notes the starts. -/
def noter : Engine U (S × List (Start U)) := ⟨h.beside, h.beside.execNoted heeds n⟩

/-- The run of a program all of whose starts are noted. -/
def noted (p : Program U S α) (w : World U S) : Ending (Exn (Value U)) α × World U (S × List (Start U)) :=
  (h.noter .all n).run p.beside (w.beside [])

/-- The starts while a program runs, in order. -/
def starts (p : Program U S α) (w : World U S) : List (Start U) := (h.noted n p w).2.outside.2

end Host

/-! ## The plain run and the noted one -/

/-- The noted world is the plain one with the starts beside it. Each of them is that of a run of its own, and those that
were noted since the mark `m` are heeded and go on where their origins lead. -/
structure Noted (heeds : Heed U) (m : List (Start U)) (w : World U S) (w' : World U (S × List (Start U))) : Prop where
  forget : w'.forget = w
  fresh (b : Start U) : b ∈ w'.outside.2 → b.run.serial < w'.serials
  distinct : (w'.outside.2.map (·.run.serial)).Nodup
  since : ∃ new, w'.outside.2 = m ++ new ∧ ∀ b ∈ new, b.Follows heeds

namespace Noted

variable {heeds : Heed U} {m : List (Start U)} {w : World U S} {w' : World U (S × List (Start U))}

/-- Nothing has been noted since. -/
theorem beside (heeds : Heed U) {l : List (Start U)} (hf : ∀ b ∈ l, b.run.serial < w.serials)
    (hd : (l.map (·.run.serial)).Nodup) : Noted heeds l w (w.beside l) where
  forget := rfl
  fresh := hf
  distinct := hd
  since := ⟨[], (List.append_nil l).symm, fun _ hb => absurd hb List.not_mem_nil⟩

theorem nil (heeds : Heed U) (w : World U S) : Noted heeds [] w (w.beside []) :=
  beside heeds (fun _ hb => absurd hb List.not_mem_nil) List.nodup_nil

/-- No other starts are noted. -/
theorem congr (h : Noted heeds m w w') {v : World U S} {v' : World U (S × List (Start U))} (hf : v'.forget = v)
    (hn : w'.serials ≤ v'.serials) (hl : v'.outside.2 = w'.outside.2) : Noted heeds m v v' where
  forget := hf
  fresh b hb := lt_of_lt_of_le (h.fresh b (hl ▸ hb)) hn
  distinct := hl ▸ h.distinct
  since := hl ▸ h.since

theorem serials_eq (h : Noted heeds m w w') : w'.serials = w.serials := h.forget ▸ rfl

theorem forest_eq (h : Noted heeds m w w') : w'.forest = w.forest := h.forget ▸ rfl

/-- A run that has just been given its number starts. -/
theorem start (h : Noted heeds m w w') {b : Start U} {heeded : Bool} (hb : b.run.serial = w'.serials)
    (hf : heeded = true → b.Follows heeds) : Noted heeds m w.counted (w'.counted.start heeded b) := by
  have hcounted : Noted heeds m w.counted w'.counted := h.congr (h.forget ▸ rfl) (Nat.le_succ _) rfl
  cases heeded with
  | false => exact hcounted
  | true =>
    refine ⟨hcounted.forget, fun c hc => ?_, ?_, ?_⟩
    · rcases List.mem_append.mp hc with hc | hc
      · exact hcounted.fresh c hc
      · obtain rfl := List.mem_singleton.mp hc
        exact Nat.lt_succ_of_le hb.le
    · show ((w'.outside.2 ++ [b]).map (·.run.serial)).Nodup
      rw [List.map_append, List.map_singleton, List.nodup_append]
      refine ⟨h.distinct, List.nodup_singleton _, ?_⟩
      rintro i hi j hj rfl
      obtain ⟨c, hc, rfl⟩ := List.mem_map.mp hi
      obtain hj := List.mem_singleton.mp hj
      exact absurd (h.fresh c hc) (by rw [hj, hb]; exact Nat.lt_irrefl _)
    · obtain ⟨new, he, hnew⟩ := h.since
      refine ⟨new ++ [b], by rw [← List.append_assoc, ← he]; rfl, fun c hc => ?_⟩
      rcases List.mem_append.mp hc with hc | hc
      · exact hnew c hc
      · obtain rfl := List.mem_singleton.mp hc
        exact hf rfl

end Noted

/-- A plain world and a noted one are twins if nothing but the starts is noted in the one. -/
def Twin.starting (heeds : Heed U) : Twin (Kinship.same (U := U)) S (S × List (Start U)) where
  Mark := List (Start U)
  holds := Noted heeds
  Tie := List (Start U)
  tie l s p := p.1 = s ∧ p.2 = l
  declares g d g' d' := g' = g ∧ d' = d
  outside {m w w'} h := by
    refine ⟨w'.outside.2, ⟨h.forget ▸ rfl, rfl⟩, fun s p hp => ?_⟩
    obtain ⟨rfl, hl⟩ := hp
    exact h.congr (h.forget ▸ rfl) le_rfl hl
  verbose h := h.forget ▸ rfl
  records h hev := by
    obtain rfl := Event.like_eq ▸ hev
    exact h.congr (h.forget ▸ rfl) le_rfl rfl
  counts h := ⟨h.forget ▸ rfl, h.congr (h.forget ▸ rfl) (Nat.le_succ _) rfl⟩
  recorders h := ⟨h.forget ▸ rfl, h.congr (h.forget ▸ rfl) le_rfl rfl⟩
  meets h hr hv := by
    obtain rfl := hr
    obtain rfl := hv
    exact h.congr (h.forget ▸ rfl) le_rfl rfl
  recorded h hr := by
    obtain rfl := hr
    exact h.forget ▸ rfl
  scope? h hi := by
    obtain rfl := hi
    rw [Kinship.same_scope, rel_eq]
    exact h.forget ▸ rfl
  updates {m w w' i i' c c'} h hi hc := by
    obtain rfl := hi
    rw [Kinship.same_scope] at hc
    obtain rfl : c = c' := funext fun s => hc s s rfl
    exact h.congr (h.forget ▸ rfl) le_rfl rfl
  opens h hx hev := by
    obtain rfl := hx
    obtain rfl := Evaluator.like_eq ▸ hev
    exact ⟨h.forget ▸ rfl, h.congr (h.forget ▸ rfl) le_rfl rfl⟩
  chain h hx := by
    obtain rfl := hx
    rw [h.forest_eq]
    exact .refl _ _

theorem Twin.starting_beside (heeds : Heed U) : (Twin.starting (S := S) heeds).Beside where
  state h := h.1
  moves _ h := ⟨rfl, h.2⟩
  forget h := h.forget
  declares _ _ := ⟨rfl, rfl⟩

theorem Host.like_beside {L : Type} {T : Twin (Kinship.same (U := U)) S (S × L)} (b : T.Beside) (h : Host U S) :
    Host.Like T h h.beside where
  toLike := b.surface h.toSurface
  call {u u' vs vs'} hu hvs := by
    obtain rfl : u = u' := hu
    obtain rfl : vs = vs' := List.forall₂_eq_eq_eq ▸ hvs
    exact b.program _
  contains {v v' c c'} hv hc := by
    obtain rfl : v = v' := hv
    obtain rfl : c = c' := hc
    exact b.program _
  matchesActual {m m' v v'} hm hv := by
    obtain rfl : m = m' := hm
    obtain rfl : v = v' := hv
    exact b.program _
  traitOf {m m'} q hm := by
    obtain rfl : m = m' := hm
    exact rel_eq (α := Value U) ▸ b.program _
  judge {v v' s s' m m'} negate hv hs hm := by
    obtain rfl : v = v' := hv
    obtain rfl : s = s' := Source.like_eq ▸ hs
    obtain rfl : m = m' := Kinship.same_matcher ▸ hm
    exact Kinship.same_verdict ▸ b.program _

/-! ## Declarations -/

namespace Twin.Beside

variable {L : Type} {T : Twin (Kinship.same (U := U)) S (S × L)} (b : T.Beside)
  (hforest : ∀ {m : T.Mark} {w : World U S} {w' : World U (S × L)} (f : Forest (Value U)), T.holds m w w' →
    T.holds m (w.withForest f) (w'.withForest f))
  {e : Engine U S} {e' : Engine U (S × L)} (a : Abreast T e e')
include b hforest

theorem changeForest (c : Forest (Value U) → Forest (Value U)) :
    T.Runs Eq (Run.changeForest c) (Run.changeForest c) := by
  refine .modify fun m w w' hw => ?_
  have hc := hforest (c w.forest) hw
  rw [← b.forest_eq hw] at hc
  rwa [← b.forest_eq hw]

include a

theorem openChild (g : Nat) (d : Value U) : T.Runs Eq (e.openChild g d) (e'.openChild g d) := by
  refine (b.ensureOpen a g).bind_eq fun _ => .get fun m w w' hw => ?_
  rw [b.forest_eq hw]
  exact (b.changeForest hforest _).bind_eq fun _ => .pure rfl

theorem addExample (g : Nat) (d : Value U) (body : Option (Value U)) (message : Value U) :
    T.Runs Eq (e.addExample g d body message) (e'.addExample g d body message) := by
  refine (b.ensureOpen a g).bind_eq fun _ => .get fun m w w' hw => ?_
  rw [b.forest_eq hw]
  exact (b.changeForest hforest _).bind_eq fun _ => .pure rfl

theorem define (g : Nat) (name producer : Value U) :
    T.Runs Eq (e.define g name producer) (e'.define g name producer) := by
  refine (b.ensureOpen a g).bind_eq fun _ => .get fun m w w' hw => (b.fullText a hw g).bind_eq fun path => ?_
  refine (a.step (a.surface.helperName rfl)).bind fun n n' hn => ?_
  obtain rfl : n = n' := Kinship.same_name ▸ hn
  rw [b.forest_eq hw]
  exact (b.changeForest hforest _).bind_eq fun _ => .pure rfl

theorem populate (g : Nat) (block : Value U) : T.Runs Eq (e.populate g block) (e'.populate g block) := by
  have hbuilder : (Kinship.same (U := U)).value (.builder g) (.builder g) := rfl
  have hblock : T.Runs Eq (do let _ ← e.callWith block [.builder g]; pure ())
      (do let _ ← e'.callWith block [.builder g]; pure ()) :=
    (a.callWith rfl (.cons hbuilder .nil)).bind fun _ _ _ => .pure rfl
  refine (hblock.ensure fun m w w' hw => ?_).bind_eq fun _ => .get fun m w w' hw =>
    (b.fullText a hw g).bind_eq fun path => ?_
  · have hclose := hforest (w.forest.closeGroup g) hw
    rw [← b.forest_eq hw] at hclose
    rwa [← b.forest_eq hw]
  · rw [b.forest_eq hw]
    exact a.notice (.pure rfl)

/-- A declaration does the same. -/
theorem declare (g : Nat) (d : Declaration (Value U)) : T.Runs Eq (e.declare g d) (e'.declare g d) := by
  cases d with
  | group d block =>
    refine .ite rfl (.pure rfl) ((b.openChild hforest a g d).bind_eq fun child => b.populate hforest a child block)
  | helper name producer =>
    refine (a.step (Twin.Beside.checkName a name)).bind_eq fun _ => .ite rfl (.pure rfl) ?_
    refine (b.define hforest a g name producer).bind_eq fun _ => .get fun m w w' hw => ?_
    rw [b.forest_eq hw]
    exact a.notice ((a.surface.textOf rfl).bind_eq fun _ => .pure rfl)
  | «example» d body =>
    refine .get fun m w w' hw => ?_
    obtain ⟨t, ht, -⟩ := T.outside hw
    have hparts : e'.exampleParts d body w'.outside = e.exampleParts d body w.outside := by
      unfold Engine.exampleParts
      rw [a.surface.isCallable (v := d) rfl ht]
    rw [hparts]
    obtain ⟨d, body⟩ := e.exampleParts d body w.outside
    refine .ite rfl ?_ ((b.addExample hforest a _ _ _ _).bind_eq fun _ => .pure rfl)
    rw [a.surface.holds (v := d) rfl ht]
    exact (b.addExample hforest a _ _ _ _).bind_eq fun _ => .pure rfl
  | pending message => exact (b.addExample hforest a _ _ _ _).bind_eq fun _ => .pure rfl
  | define name producer => exact (b.define hforest a _ _ _).bind_eq fun _ => .pure rfl
  | close => exact b.changeForest hforest _

end Twin.Beside

/-! ## Operations that start runs -/

namespace Abreast

variable {heeds : Heed U} {e : Engine U S} {e' : Engine U (S × List (Start U))} {α' : Type}
  (a : Abreast (Twin.starting heeds) e e')

/-- What follows on a number that has just been given to a run, which is noted on the one side. -/
theorem started {R : α → α' → Prop} {k : Nat → Run U S α} {k' : Nat → Run U (S × List (Start U)) α'} {heeded : Bool}
    {b : Nat → Start U} (hb : ∀ n, (b n).run.serial = n) (hf : ∀ n, heeded = true → (b n).Follows heeds)
    (hk : ∀ n, (Twin.starting heeds).Runs R (k n) (k' n)) :
    (Twin.starting heeds).Runs R (Run.freshSerial >>= k)
      (Run.freshSerial >>= fun n => Run.start heeded (b n) >>= fun _ => k' n) := by
  intro m w w' hw
  have hnoted : (Run.freshSerial >>= fun n => Run.start heeded (b n) >>= fun _ => k' n) w' =
      k' w.serials (w'.counted.start heeded (b w.serials)) := by
    rw [← hw.serials_eq]
    rfl
  unfold Action.LikeAt
  rw [hnoted]
  exact hk w.serials m _ _ (hw.start ((hb _).trans hw.serials_eq.symm) (hf _))

include a

theorem callOuterNoted (c : OuterCall (Value U)) :
    (Twin.starting heeds).Runs Eq (e.callOuter c) (e'.callOuterNoted c) := by
  cases hc : c.outward with
  | nil =>
    rw [Engine.callOuterNoted_of_nil hc]
    exact a.callOuter (.refl c)
  | cons d rest =>
    unfold Engine.callOuter Engine.callOuterNoted
    rw [hc]
    exact started (b := fun n => ⟨⟨n, c.scope, d, rest⟩, .outward c⟩) (fun _ => rfl) (fun _ _ => ⟨rfl, hc⟩)
      fun n => a.produce (.refl _)

theorem computeNoted (id : Nat) (s : Scope (Value U)) (name : HelperName (Value U)) :
    (Twin.starting heeds).Runs Eq (e.compute id s name) (e'.computeNoted heeds id s name) := by
  have hname := Kinship.Name.refl name
  have hscope := Kinship.Scope.refl s
  refine .get fun m w w' hw => ?_
  refine (a.step (a.surface.definitionsFor ((Twin.starting heeds).chain hw (hscope.owner)) hname)).bind
    fun ds ds' hds => ?_
  obtain rfl : ds = ds' := by
    rw [Kinship.same_definition, List.forall₂_eq_eq_eq] at hds
    exact hds
  cases ds.reverse with
  | nil => exact a.raiseUndefined hscope hname
  | cons d outward =>
    refine started (b := fun n => ⟨⟨n, id, d, outward⟩, .lookup name⟩) (fun _ => rfl) (fun _ hh => hh) fun n => ?_
    refine (whileComputing rfl hname (a.produce (.refl _))).bind_eq fun v => ?_
    refine (changeScope rfl fun _ _ hs => hs.keep hname rfl).bind_eq fun _ => ?_
    exact (a.notice ((a.surface.textOf rfl).bind_eq fun _ => .pure rfl)).bind_eq fun _ => .pure rfl

theorem lookupNameNoted (id : Nat) (name : HelperName (Value U)) :
    (Twin.starting heeds).Runs Eq (e.lookupName id name) (e'.lookupNameNoted heeds id name) := by
  have hname := Kinship.Name.refl name
  refine (scope rfl).bind fun s s' hs => ?_
  obtain rfl : s = s' := Kinship.same_scope ▸ hs
  cases s.kept? name with
  | some v => exact .pure rfl
  | none =>
    cases s.pathFrom? name with
    | some path => exact a.raiseCircular hs (List.forall₂_same.mpr fun n _ => .refl n) hname
    | none => exact a.computeNoted id s name

theorem lookupNoted (id : Nat) (name : Value U) :
    (Twin.starting heeds).Runs Eq (e.lookup id name) (e'.lookupNoted heeds id name) := by
  refine (a.step (a.surface.helperName rfl)).bind fun n n' hn => ?_
  obtain rfl : n = n' := Kinship.same_name ▸ hn
  exact a.lookupNameNoted id n

theorem accessNoted (id : Nat) (name : String) :
    (Twin.starting heeds).Runs Eq (e.access id name) (e'.accessNoted heeds id name) := by
  unfold Engine.access Engine.accessNoted
  cases Member.named? name with
  | none => exact .ite rfl (a.complain _) ((a.lookupNoted id _).bind_eq fun _ => .pure rfl)
  | some m =>
    cases m with
    | describedTarget => exact (a.describedTarget rfl).bind_eq fun _ => .pure rfl
    | _ => exact .pure rfl

theorem answerCallNoted (f : Value U) (args : List (Value U)) :
    (Twin.starting heeds).Runs Eq (e.answerCall f args) (e'.answerCallNoted heeds f args) := by
  have hargs : List.Forall₂ (Kinship.same (U := U)).value args args := List.forall₂_same.mpr fun _ _ => rfl
  cases f with
  | outer c => exact .ite rfl (a.callOuterNoted c) (a.complain _)
  | subjectOf n id => exact .ite rfl (a.lookupNameNoted id .subject) (a.complain _)
  | _ => exact a.answerCall rfl hargs

theorem performNoted {α α' : Type} {R : α → α' → Prop} {r : Request U S α} {r' : Request U (S × List (Start U)) α'}
    (hr : r.Like (Twin.starting heeds) R r') :
    (Twin.starting heeds).Runs R (e.perform r) (e'.performNoted heeds r') := by
  have hdeclare (g g' : Nat) (d d' : Declaration (Value U)) (hd : (Twin.starting (S := S) heeds).declares g d g' d') :
      (Twin.starting heeds).Runs Eq (e.declare g d) (e'.declare g' d') := by
    obtain ⟨rfl, rfl⟩ := hd
    exact (Twin.starting_beside heeds).declare (fun f hw => hw.congr (hw.forget ▸ rfl) le_rfl rfl) a g' d'
  have hother : (Twin.starting heeds).Runs R (e.performWith e.declare r) (e'.performWith e'.declare r') :=
    a.perform hr hdeclare
  cases hr with
  | @call f f' vs vs' hf hvs =>
    obtain rfl : f = f' := hf
    obtain rfl : vs = vs' := List.forall₂_eq_eq_eq ▸ hvs
    exact a.answerCallNoted f vs
  | @lookup i i' v v' hi hv =>
    obtain rfl : i = i' := hi
    obtain rfl : v = v' := hv
    exact a.lookupNoted i v
  | @access i i' hi name =>
    obtain rfl : i = i' := hi
    exact (Access.like_eq (V := Value U)).symm ▸ a.accessNoted i name
  | _ => exact hother

end Abreast

/-- Noting the starts makes no difference. -/
theorem Host.abreast_noter (h : Host U S) (heeds : Heed U) (n : Nat) :
    Abreast (Twin.starting heeds) (h.engine n) (h.noter heeds n) := by
  have hhost := h.like_beside (Twin.starting_beside (S := S) heeds)
  induction n with
  | zero => exact ⟨hhost, fun _ => Abreast.refuse hhost.toLike _⟩
  | succ n ih => exact ⟨hhost, fun hp => hp.interp (fun hr => ih.performNoted hr) fun _ _ => rfl⟩

/-- Every noted program ends as it does otherwise, in the same world but for the starts, and starts new runs. -/
theorem Host.noted_run (h : Host U S) (heeds : Heed U) (n : Nat) (p : Program U S α) {m : List (Start U)}
    {w : World U S} {w' : World U (S × List (Start U))} (hw : Noted heeds m w w') :
    ((h.noter heeds n).run p.beside w').1 = (h.exec n p w).1 ∧
      Noted heeds m (h.exec n p w).2 ((h.noter heeds n).run p.beside w').2 := by
  obtain ⟨hend, hnoted⟩ := (h.abreast_noter heeds n).run ((Twin.starting_beside heeds).program p) m w w' hw
  exact ⟨hend.eq.symm, hnoted⟩

/-! ## Lookups that start nothing -/

namespace World

variable (w : World U (S × List (Start U))) (heeded : Bool) (b : Start U)

theorem scope?_start (i : Nat) : (w.start heeded b).scope? i = w.scope? i := by
  cases heeded <;> rfl

theorem forest_start : (w.start heeded b).forest = w.forest := by
  cases heeded <;> rfl

end World

namespace Frame

variable {F : Frame U (S × List (Start U))} {e e' : Engine U (S × List (Start U))}

theorem start (heeded : Bool) (b : Start U) : F.Agree (Run.start heeded b) (Run.start heeded b) := by
  refine .of_leads fun w _ => ?_
  rw [Run.start_apply]
  cases heeded with
  | false => exact F.refl w
  | true => exact F.outside w _

variable (a : F.Alike e e') {heeds heeds' : Heed U}
  (hheeds : ∀ {w : World U (S × List (Start U))} {id : Nat} {s : Scope (Value U)} {name : HelperName (Value U)},
    F.holds w → w.scope? id = some s → s.kept? name = none → s.pathFrom? name = none → heeds' id name = heeds id name)
include a

theorem Alike.callOuterNoted (c : OuterCall (Value U)) : F.Agree (e.callOuterNoted c) (e'.callOuterNoted c) := by
  cases hc : c.outward with
  | nil =>
    rw [Engine.callOuterNoted_of_nil hc, Engine.callOuterNoted_of_nil hc]
    exact a.callOuter c
  | cons d rest =>
    unfold Engine.callOuterNoted
    rw [hc]
    exact freshSerial.bind fun _ => (start _ _).bind fun _ => a.produce _

include hheeds

theorem Alike.computeNoted {w : World U (S × List (Start U))} {id : Nat} {s : Scope (Value U)}
    {name : HelperName (Value U)} (hw : F.holds w) (hs : w.scope? id = some s) (hk : s.kept? name = none)
    (hp : s.pathFrom? name = none) : F.Same w (e.computeNoted heeds id s name) (e'.computeNoted heeds' id s name) := by
  unfold Engine.computeNoted Engine.resolvedNotice
  rw [a.surface, hheeds hw hs hk hp]
  refine Same.get (Same.bind hw (a.step _ w hw) fun ds w₁ h₁ hw₁ => ?_)
  obtain ⟨t, ht, rfl⟩ := e.step_done h₁
  split
  · exact a.raiseUndefined s name _ hw₁
  next d outward hds =>
    refine Same.bind hw₁ (freshSerial _ hw₁) fun serial w₂ h₂ hw₂ => ?_
    obtain rfl : w₂ = (w.withOutside t).counted := (congrArg Prod.snd h₂).symm
    refine Same.bind hw₂ (start _ _ _ hw₂) fun _ w₃ h₃ hw₃ => ?_
    obtain rfl := (congrArg Prod.snd h₃).symm
    refine computing hw₃ ((World.scope?_start ..).trans hs) hk hp ?_ (a.produce _)
      fun v => (a.notice _).bind fun _ => .pure v
    have hforest :=
      World.forest_start (w.withOutside t).counted (heeds id name) ⟨⟨serial, id, d, outward⟩, .lookup name⟩
    rw [Run.start_apply, hforest]
    exact e.surface.defines_of_definitionsFor ht (by rintro rfl; simp at hds)

theorem Alike.lookupNameNoted (id : Nat) (name : HelperName (Value U)) :
    F.Agree (e.lookupNameNoted heeds id name) (e'.lookupNameNoted heeds' id name) := by
  intro w hw
  refine Same.bind hw (Frame.scope id w hw) fun s w₁ h₁ hw₁ => ?_
  obtain ⟨hs, rfl⟩ := Run.scope_done h₁
  cases hk : s.kept? name with
  | some v => exact Agree.pure v _ hw
  | none =>
    cases hp : s.pathFrom? name with
    | some path => exact a.raiseCircular s path name _ hw
    | none => exact a.computeNoted hheeds hw hs hk hp

theorem Alike.lookupNoted (id : Nat) (name : Value U) :
    F.Agree (e.lookupNoted heeds id name) (e'.lookupNoted heeds' id name) := by
  unfold Engine.lookupNoted
  rw [a.surface]
  exact (a.step _).bind fun n => a.lookupNameNoted hheeds id n

theorem Alike.accessNoted (id : Nat) (name : String) :
    F.Agree (e.accessNoted heeds id name) (e'.accessNoted heeds' id name) := by
  unfold Engine.accessNoted
  split
  · exact (a.describedTarget id).bind fun v => .pure _
  · exact .pure _
  · split
    · exact a.complain _
    · exact (a.lookupNoted hheeds id _).bind fun v => .pure _

theorem Alike.answerCallNoted (f : Value U) (args : List (Value U)) :
    F.Agree (e.answerCallNoted heeds f args) (e'.answerCallNoted heeds' f args) := by
  unfold Engine.answerCallNoted
  split
  · split
    · exact a.callOuterNoted _
    · exact a.complain _
  · split
    · exact a.lookupNameNoted hheeds _ _
    · exact a.complain _
  · exact a.answerCall _ args

theorem Alike.performNoted (r : Request U (S × List (Start U)) α) :
    F.Agree (e.performNoted heeds r) (e'.performNoted heeds' r) := by
  have hother := a.perform r
  cases r with
  | call f args => exact a.answerCallNoted hheeds f args
  | lookup id name => exact a.lookupNoted hheeds id name
  | access id name => exact a.accessNoted hheeds id name
  | _ => exact hother

omit a in
/-- Two noters do the same, to the starts that they note, if they heed the same lookups of names that are neither kept
nor being computed. -/
theorem alike_noter (h : Host U S) (n : Nat) : F.Alike (h.noter heeds n) (h.noter heeds' n) := by
  induction n with
  | zero => exact ⟨rfl, fun _ => complain h.beside.toSurface .tooDeep⟩
  | succ n ih => exact ⟨rfl, fun p => Agree.interp (fun r => ih.performNoted hheeds r) p⟩

end Frame

/-- On the scope the name is kept or being computed. -/
def Scope.Settles (s : Scope (Value U)) (name : HelperName (Value U)) : Prop :=
  name.slot ∈ (s.resolving ++ s.keptNames).map HelperName.slot

theorem Scope.Settles.not_missed {s : Scope (Value U)} {name : HelperName (Value U)} (h : s.Settles name) :
    ¬ (s.kept? name = none ∧ s.pathFrom? name = none) := by
  rw [Scope.kept?_eq_none_iff, Scope.pathFrom?_eq_none_iff]
  unfold Settles at h
  rw [List.map_append, List.mem_append] at h
  tauto

theorem Scope.Settles.later {s s' : Scope (Value U)} {name : HelperName (Value U)} (h : s.Settles name)
    (hl : s.Later s') : s'.Settles name := by
  refine List.map_subset HelperName.slot ?_ h
  rw [hl.resolving]
  exact List.append_subset.mpr ⟨List.subset_append_left _ _,
    List.Subset.trans (List.map_subset _ hl.memo.subset) (List.subset_append_right _ _)⟩

/-- The name is kept on the scope, or being computed, and so it stays. -/
def settledFrame (id : Nat) (name : HelperName (Value U)) : Frame U S where
  holds w := w.Sound ∧ ∃ s, w.scope? id = some s ∧ s.Settles name
  leads := scopeFrame.leads
  refl := scopeFrame.refl
  trans := scopeFrame.trans
  stays := by
    rintro w w' ⟨hw, s, hs, hsettles⟩ hl
    obtain ⟨s', hs', hlater⟩ := hl.2.scope id s hs
    exact ⟨hl.1 hw, s', hs', hsettles.later hlater⟩
  outside := scopeFrame.outside
  tells := scopeFrame.tells
  counts := scopeFrame.counts
  recorders := scopeFrame.recorders
  declares h := scopeFrame.declares h.1
  succeeds := scopeFrame.succeeds
  opens := scopeFrame.opens
  computes {w i s' m} h hs' hk hp hd := by
    obtain ⟨hin, hout⟩ := scopeFrame.computes h.1 hs' hk hp hd
    obtain ⟨s, hs, hsettles⟩ := h.2
    refine ⟨⟨hin, ?_⟩, hout⟩
    rw [World.scope?_enter]
    by_cases hi : i = id
    · rw [if_pos hi, hs]
      refine ⟨_, rfl, List.map_subset HelperName.slot ?_ hsettles⟩
      exact List.append_subset.mpr ⟨List.Subset.trans (List.subset_append_left _ _) (List.subset_append_left _ _),
        List.subset_append_right _ _⟩
    · rw [if_neg hi]
      exact ⟨s, hs, hsettles⟩

/-- A name that is kept or being computed is not missed when its lookups are not heeded. -/
theorem Host.noter_but (h : Host U S) (id : Nat) (name : HelperName (Value U)) (n : Nat) :
    (settledFrame id name).Alike (h.noter .all n) (h.noter (.but id name) n) := by
  refine Frame.alike_noter (fun {w i s m} hw hs hk hp => ?_) h n
  obtain ⟨-, s', hs', hsettles⟩ := hw
  by_cases hm : (i == id && m.same name) = true
  · obtain ⟨hi, hsame⟩ := Bool.and_eq_true .. ▸ hm
    obtain rfl := beq_iff_eq.mp hi
    obtain rfl : s = s' := Option.some.inj (hs.symm.trans hs')
    have hslot : name.slot = m.slot := (HelperName.same_iff.mp hsame).symm
    unfold Scope.Settles at hsettles
    rw [hslot] at hsettles
    exact absurd ⟨hk, hp⟩ (Scope.Settles.not_missed hsettles)
  · simp [Heed.but, Heed.all, hm]

end Exemplar

import Exemplar.Proofs.Extent
import Exemplar.Proofs.Halting

/-!
# Exemplar.Proofs.Refusal — a closed group is frozen

Whatever the library is asked for after a group was closed, and however that ends, the group stays as it is: its
entries, its definitions, its place in the tree and the target it inherits. A declaration in it is refused before
anything has been done about it: all that happens is that the group is put into words for the error. A name that is no
name for a helper is refused even earlier, in an open group as in a closed one.

* `Host.Operation`, `Host.Leads`: everything that can be asked for, and what comes after any amount of it.
* `Host.Leads.grows`: forests only grow.
* `Engine.Refused`: what it means that a declaration is refused.
* `declare_of_adds`, `declare_of_fault`: when a declaration asks whether its group is open, and when not even that.
* `Host.frozen_once_closed`: the whole of it.
-/

namespace Exemplar

variable {U S α : Type}

/-! ## Everything that can be asked for -/

/-- What the library can be asked for: to run a program, to answer a single request, to declare something in a group,
to declare a tree, to run examples one by one or as a tree, or to do all of that at once. -/
inductive Host.Operation (h : Host U S) : {α : Type} → Run U S α → Prop
  | program (n : Nat) {α : Type} (p : Program U S α) : h.Operation (h.exec n p)
  | request (n : Nat) {α : Type} (r : Request U S α) : h.Operation ((h.engine n).perform r)
  | root (n : Nat) (description : Value U) : h.Operation ((h.engine n).addRoot description)
  | child (n group : Nat) (description : Value U) : h.Operation ((h.engine n).openChild group description)
  | entry (n group : Nat) (description : Value U) (body : Option (Value U)) (message : Value U) :
    h.Operation ((h.engine n).addExample group description body message)
  | populate (n group : Nat) (block : Value U) : h.Operation ((h.engine n).populate group block)
  | tree (n : Nat) (description block : Value U) : h.Operation ((h.engine n).buildGroup description block)
  | scope (x : Example (Value U)) (ev : Evaluator (Value U)) : h.Operation (Engine.openScope x ev)
  | single (n : Nat) (ev : Evaluator (Value U)) (x : Example (Value U)) : h.Operation ((h.engine n).runExample ev x)
  | run (n : Nat) (r : Reporting) (ev : Evaluator (Value U)) (limit root : Nat) :
    h.Operation ((h.engine n).runTree r ev limit root)
  | orExit (n : Nat) (r : Reporting) (ev : Evaluator (Value U)) (limit root : Nat) :
    h.Operation ((h.engine n).runOrExit r ev limit root)
  | describe (n : Nat) (r : Reporting) (ev : Evaluator (Value U)) (limit : Nat) (description block : Value U) :
    h.Operation ((h.engine n).describe r ev limit description block)
  | context (n : Nat) (r : Reporting) (ev : Evaluator (Value U)) (limit : Nat) (description block : Value U) :
    h.Operation ((h.engine n).context r ev limit description block)
  | alone (n : Nat) (r : Reporting) (ev : Evaluator (Value U)) (limit : Nat) (d : Declaration (Value U)) :
    h.Operation ((h.engine n).runAlone r ev limit d)

/-- The second world comes after the first, by operations one after the other, each of which may end in any way. -/
inductive Host.Leads (h : Host U S) (w : World U S) : World U S → Prop
  | refl : h.Leads w w
  | step {α : Type} {x : Run U S α} {w' : World U S} (hx : h.Operation x) (hw : h.Leads w w') : h.Leads w (x w').2

/-- Forests that grow, as a frame. -/
def growthFrame : Frame U S where
  holds _ := True
  leads w w' := w.forest.Grows w'.forest
  refl _ := .refl _
  trans := .trans
  stays _ _ := trivial
  outside _ _ := .refl _
  tells _ _ _ := .refl _
  counts _ := .refl _
  recorders _ _ _ := .refl _
  declares _ hd := hd.grows
  succeeds _ _ _ _ _ := .refl _
  opens _ _ _ := .refl _
  computes _ _ _ _ _ := ⟨trivial, fun _ h => ⟨h, fun _ => h⟩⟩

/-- What can be asked for keeps to every frame within which trees may be declared and lines be written. -/
theorem Host.Operation.agree {h : Host U S} {x : Run U S α} (hx : h.Operation x) {F : Frame U S} (o : F.Open) :
    F.Agree x x := by
  have a (n : Nat) := F.alike_engine h n
  cases hx with
  | program n p => exact (a n).run p
  | request n r => exact (a n).perform r
  | root n description => exact (a n).addRoot o description
  | child n g description => exact (a n).openChild g description
  | entry n g description body message => exact (a n).addExample g description body message
  | populate n g block => exact (a n).populate g block
  | tree n description block => exact (a n).buildGroup o description block
  | scope x ev => exact .of_leads fun w _ => F.opens w x ev
  | single n ev x => exact (a n).runExample ev x
  | run n r ev limit root => exact (a n).runFrom o r ((a n).runExample ev) root limit _ _
  | orExit n r ev limit root => exact (a n).runOrExit o r ev limit root
  | describe n r ev limit description block => exact (a n).describe o r ev limit description block
  | context n r ev limit description block => exact (a n).context o r ev limit description block
  | alone n r ev limit d => exact (a n).runAlone o r ev limit d

theorem Host.Leads.grows {h : Host U S} {w w' : World U S} (hw : h.Leads w w') : w.forest.Grows w'.forest := by
  have o : (growthFrame : Frame U S).Open := ⟨fun _ _ _ => .addGroup _, fun _ _ _ => .refl _⟩
  induction hw with
  | refl => exact .refl _
  | step hx _ ih => exact ih.trans (hx.agree o _ trivial).2

/-! ## Closed groups -/

namespace Forest

variable {V : Type}

/-- The group is in the second forest just what it was in the first: its parent, its entries and its definitions, the
groups above it, and the target that it inherits. -/
structure Frozen (f f' : Forest V) (g : Nat) : Prop where
  group : f'.group? g = f.group? g
  ancestors : f'.ancestors g = f.ancestors g
  target : f'.target? g = f.target? g

theorem Frozen.of_grows {f f' : Forest V} (hg : f.Grows f') (hwf : f.WellFormed) {g : Nat} (hlt : g < f.groups.size)
    (hs : f.isSealed g = true) : f.Frozen f' g where
  group := by
    have he : f.group? g = some f.groups[g] := Array.getElem?_eq_getElem hlt
    have hclosed : f.groups[g].isSealed = true := by simpa [isSealed, he] using hs
    rw [he, hg.group?_eq he hclosed]
  ancestors := hg.ancestors_of_lt hwf hlt
  target := by
    have hroot := hwf.lt_of_mem_ancestors hlt (f.root_mem_ancestors g)
    have he : f.group? (f.root g) = some f.groups[f.root g] := Array.getElem?_eq_getElem hroot
    obtain ⟨gr, hgr, hgrows⟩ := hg _ _ he
    rw [target?, target?, hg.root_of_lt hwf hlt, hgr, he]
    exact hgrows.target

end Forest

/-- However the declaration of a tree has ended, its groups are closed. -/
theorem Host.isSealed_buildGroup (h : Host U S) (n : Nat) (description block : Value U) (w : World U S) {g : Nat}
    (hg : w.forest.groups.size ≤ g) :
    ((h.engine n).buildGroup description block w).2.forest.isSealed g = true := by
  obtain ⟨-, hforest, hsound, cs, ds, he, hcs, hds, -⟩ := h.buildGroup_chronicle n description block w
  have hrunning : Change.running [] (h.chronicle n description block w) = some [] := he ▸ hcs.running_tree hds
  exact hforest ▸ hsound.closed hrunning hg

/-! ## Refusals -/

/-- The action is refused. Once the text is made nothing else happens but that the error with it is raised; where an
error comes in the way of the text, this is the one that is raised. -/
structure Engine.Refused (e : Engine U S) (text : Step U S String) (cause : String → AuthoringCause) (w : World U S)
    (x : Run U S α) : Prop where
  told {t : String} {s : S} (ht : text w.outside = (.done t, s)) :
    x w = (.raised (.authoring ⟨cause t, none⟩), w.withOutside s)
  untold {err : Exn (Value U)} {w' : World U S} (ht : e.step text w = (.raised err, w')) : x w = (.raised err, w')

theorem Engine.Refused.of_eq {e : Engine U S} {text : Step U S String} {cause : String → AuthoringCause}
    {w : World U S} {x : Run U S α}
    (hx : x w = (e.step text >>= fun t => Action.raise (.authoring ⟨cause t, none⟩)) w) :
    e.Refused text cause w x where
  told ht := hx.trans (Action.bind_done (e.step_of_done ht))
  untold ht := hx.trans (Action.bind_raised ht)

theorem Engine.Refused.congr {e : Engine U S} {text : Step U S String} {cause : String → AuthoringCause}
    {w : World U S} {x y : Run U S α} (h : e.Refused text cause w y) (hx : x w = y w) : e.Refused text cause w x where
  told ht := hx.trans (h.told ht)
  untold ht := hx.trans (h.untold ht)

/-- The declaration adds something to its group: a group with a block, a helper with a producer under a valid name, or
an example of any form. -/
inductive Declaration.Adds (sf : Surface U S) (s : S) : Declaration (Value U) → Prop
  | group (description : Value U) {block : Value U} (hb : block.isAbsent = false) : Adds sf s (.group description block)
  | helper {name producer : Value U} {t : String} (ht : sf.text? name s = some t) (hn : NameFault.of? t = none)
    (hp : producer.isAbsent = false) : Adds sf s (.helper name producer)
  | «example» (description body : Value U) : Adds sf s (.example description body)
  | pending (message : Value U) : Adds sf s (.pending message)
  | define (name producer : Value U) : Adds sf s (.define name producer)

/-- The declaration waits for its function: it is that of a group or of a helper under a valid name. -/
inductive Declaration.Waits (sf : Surface U S) (s : S) : Declaration (Value U) → Prop
  | group (description : Value U) {block : Value U} (hb : block.isAbsent = true) : Waits sf s (.group description block)
  | helper {name producer : Value U} {t : String} (ht : sf.text? name s = some t) (hn : NameFault.of? t = none)
    (hp : producer.isAbsent = true) : Waits sf s (.helper name producer)

theorem Declaration.Waits.adds {sf : Surface U S} {s : S} {d : Declaration (Value U)} (hd : d.Waits sf s) {f : Value U}
    (hf : f.isAbsent = false) : (d.withFunction f).Adds sf s := by
  cases hd with
  | group description _ => exact .group description hf
  | helper ht hn _ => exact .helper ht hn hf

namespace Surface

variable (sf : Surface U S) {name : Value U} {s : S} {t : String}

theorem checkName_of_none (ht : sf.text? name s = some t) (hn : NameFault.of? t = none) :
    sf.checkName name s = (.done (), s) := by
  rw [checkName, Action.get_bind_apply, ht]
  simp only [hn]
  rfl

theorem checkName_of_fault {fault : NameFault} (ht : sf.text? name s = some t) (hn : NameFault.of? t = some fault) :
    sf.checkName name s = (.raised (.raised (.authoring ⟨.invalidHelperName t fault.reason, none⟩)), s) := by
  rw [checkName, Action.get_bind_apply, ht]
  simp only [hn]
  rfl

theorem checkName_of_noText (ht : sf.text? name s = none) :
    sf.checkName name s =
      (sf.textOf name >>= fun t => Step.raise (.authoring ⟨.invalidHelperName t NameFault.empty.reason, none⟩)) s := by
  rw [checkName, Action.get_bind_apply, ht]

end Surface

namespace Engine

variable (e : Engine U S) {w : World U S} {g : Nat}

theorem refused_of_isSealed (hs : w.forest.isSealed g = true) (k : Unit → Run U S α) :
    e.Refused (e.surface.fullText w.forest g) .sealedGroup w (e.ensureOpen g >>= k) := by
  refine .of_eq ?_
  have hopen : e.ensureOpen g w =
      (e.step (e.surface.fullText w.forest g) >>= fun t => Action.raise (.authoring ⟨.sealedGroup t, none⟩)) w := by
    rw [ensureOpen, Action.get_bind_apply, if_pos hs]
  rw [Action.bind_apply, hopen, Action.bind_apply, Action.bind_apply]
  rcases e.step (e.surface.fullText w.forest g) w with ⟨t | err | _, w'⟩ <;> rfl

/-- A declaration that adds something first of all asks whether its group is open. -/
theorem declare_of_adds {d : Declaration (Value U)} (hd : d.Adds e.surface w.outside) (g : Nat) :
    ∃ k : Unit → Run U S Unit, e.declare g d w = (e.ensureOpen g >>= k) w := by
  cases hd with
  | group description hb =>
    rw [declare, if_neg (by simp [hb]), openChild, bind_assoc]
    exact ⟨_, rfl⟩
  | helper ht hn hp =>
    rw [declare, Action.bind_done (e.step_of_done (e.surface.checkName_of_none ht hn)), if_neg (by simp [hp]), define,
      bind_assoc]
    exact ⟨_, rfl⟩
  | «example» description body =>
    rw [declare, Action.get_bind_apply]
    dsimp only
    split
    · rw [addExample, bind_assoc]
      exact ⟨_, rfl⟩
    · rw [addExample, bind_assoc]
      exact ⟨_, rfl⟩
  | pending message =>
    rw [declare, addExample, bind_assoc]
    exact ⟨_, rfl⟩
  | define name producer =>
    rw [declare, define, bind_assoc]
    exact ⟨_, rfl⟩

/-- A declaration that waits for its function declares nothing. -/
theorem declare_of_waits {d : Declaration (Value U)} (hd : d.Waits e.surface w.outside) (g : Nat) :
    e.declare g d w = (.done (), w) := by
  cases hd with
  | group description hb =>
    rw [declare, if_pos hb]
    rfl
  | helper ht hn hp =>
    rw [declare, Action.bind_done (e.step_of_done (e.surface.checkName_of_none ht hn)), if_pos hp]
    rfl

/-- A text that breaks a rule is refused without further ado. -/
theorem declare_of_fault {name : Value U} {t : String} {fault : NameFault}
    (ht : e.surface.text? name w.outside = some t) (hn : NameFault.of? t = some fault) (g : Nat) (producer : Value U) :
    e.declare g (.helper name producer) w = (.raised (.authoring ⟨.invalidHelperName t fault.reason, none⟩), w) := by
  rw [declare]
  exact Action.bind_raised (e.step_of_raised (e.surface.checkName_of_fault ht hn))

/-- A value that is no text is refused, and put into words for this. -/
theorem refused_of_noText {name : Value U} (ht : e.surface.text? name w.outside = none) (g : Nat) (producer : Value U) :
    e.Refused (e.surface.textOf name) (.invalidHelperName · NameFault.empty.reason) w
      (e.declare g (.helper name producer)) := by
  have hcheck : e.step (e.surface.checkName name) w = (e.step (e.surface.textOf name) >>= fun t =>
      (Action.raise (.authoring ⟨.invalidHelperName t NameFault.empty.reason, none⟩) : Run U S Unit)) w := by
    rw [step_apply, e.surface.checkName_of_noText ht, ← step_apply, step_bind]
    rfl
  refine .of_eq ?_
  rw [declare, Action.bind_apply, hcheck, Action.bind_apply]
  rcases e.step (e.surface.textOf name) w with ⟨t | err | _, w'⟩ <;> rfl

end Engine

/-! ## The whole of it -/

/-- A closed group is frozen, and a refused declaration changes nothing. Whatever is asked for from a world on, and
however it ends, all groups that were closed are just what they were; and once a tree has been declared, in whatever
way this has ended, all its groups are closed. In a closed group, in whatever state, each declaration that adds
something is refused, and so are a nested group and an example: as soon as the group is put into words, the error that
it is closed is raised, and nothing else happens, so no block is run. A name that is no name for a helper is refused in
any group. A declaration that waits for its function declares nothing, and once it has it adds something. -/
theorem Host.frozen_once_closed (h : Host U S) :
    (∀ w, h.Reached w →
      (∀ w', h.Leads w w' → ∀ g < w.forest.groups.size, w.forest.isSealed g = true → w.forest.Frozen w'.forest g) ∧
      ∀ n description block built, ((h.engine n).buildGroup description block w).2 = built → ∀ w', h.Leads built w' →
        ∀ g < built.forest.groups.size, w.forest.groups.size ≤ g →
          built.forest.isSealed g = true ∧ built.forest.Frozen w'.forest g) ∧
    (∀ n w g, w.forest.isSealed g = true →
      (∀ d, d.Adds h.toSurface w.outside →
        (h.engine n).Refused (h.toSurface.fullText w.forest g) .sealedGroup w ((h.engine n).declare g d)) ∧
      (∀ description,
        (h.engine n).Refused (h.toSurface.fullText w.forest g) .sealedGroup w ((h.engine n).openChild g description)) ∧
      ∀ description body message, (h.engine n).Refused (h.toSurface.fullText w.forest g) .sealedGroup w
        ((h.engine n).addExample g description body message)) ∧
    (∀ n w g name producer,
      (∀ t fault, h.toSurface.text? name w.outside = some t → NameFault.of? t = some fault →
        (h.engine n).declare g (.helper name producer) w =
          (.raised (.authoring ⟨.invalidHelperName t fault.reason, none⟩), w)) ∧
      (h.toSurface.text? name w.outside = none →
        (h.engine n).Refused (h.toSurface.textOf name) (.invalidHelperName · NameFault.empty.reason) w
          ((h.engine n).declare g (.helper name producer)))) ∧
    ∀ n w g (d : Declaration (Value U)), d.Waits h.toSurface w.outside →
      (h.engine n).declare g d w = (.done (), w) ∧
      ∀ f, f.isAbsent = false → (d.withFunction f).Adds h.toSurface w.outside := by
  have hfrozen {w : World U S} (hw : h.Reached w) {w' : World U S} (hl : h.Leads w w') {g : Nat}
      (hlt : g < w.forest.groups.size) (hs : w.forest.isSealed g = true) : w.forest.Frozen w'.forest g :=
    .of_grows hl.grows (World.wellFormed_of_reached hw) hlt hs
  refine ⟨fun w hw => ⟨fun w' hl g hlt hs => hfrozen hw hl hlt hs, ?_⟩,
    fun n w g hs => ⟨fun d hd => ?_, fun description => ?_, fun description body message => ?_⟩,
    fun n w g name producer => ⟨fun t fault ht hn => ?_, fun ht => ?_⟩,
    fun n w g d hd => ⟨(h.engine n).declare_of_waits hd g, fun f hf => hd.adds hf⟩⟩
  · rintro n description block _ rfl w' hl g hlt hg
    have hs := h.isSealed_buildGroup n description block w hg
    exact ⟨hs, hfrozen (.declare n description block hw) hl hlt hs⟩
  · obtain ⟨k, hk⟩ := (h.engine n).declare_of_adds hd g
    exact ((h.engine n).refused_of_isSealed hs k).congr hk
  · exact (h.engine n).refused_of_isSealed hs _
  · exact (h.engine n).refused_of_isSealed hs _
  · exact (h.engine n).declare_of_fault ht hn g producer
  · exact (h.engine n).refused_of_noText ht g producer

/-- After the run of a tree its nested group is what it was. In a closed group a late group, an invalid name and a helper
that waits for its function come to nothing. -/
theorem frozen_once_closed_nested :
    let e := Host.nested.engine 4
    let built := (e.buildGroup (.text "outer") (.user 1) (.initial () false)).2
    let later := (e.runTree ⟨[], false⟩ .standard 9 0 built).2
    let w := singleWorld (.text "outer")
    built.forest.isSealed 1 = true ∧ built.forest.Frozen later.forest 1 ∧
    e.declare 0 (.group (.text "late") (.user 3)) w = (.raised (.authoring ⟨.sealedGroup "outer", none⟩), w) ∧
    e.declare 0 (.helper (.text "class") (.user 7)) w =
      (.raised (.authoring ⟨.invalidHelperName "class" "must be a valid Python identifier", none⟩), w) ∧
    e.declare 0 (.helper (.text "late") .absent) w = (.done (), w) := by
  intro e built later w
  obtain ⟨hclosed, hsealed, hname, hwaits⟩ := Host.frozen_once_closed Host.nested
  obtain ⟨-, htree⟩ := hclosed (.initial () false) (.initial () false)
  obtain ⟨hs, hfrozen⟩ := htree 4 (.text "outer") (.user 1) built rfl later (.step (.run 4 _ _ 9 0) .refl) 1
    (by decide +kernel) (by decide +kernel)
  obtain ⟨hadds, -⟩ := hsealed 4 w 0 rfl
  obtain ⟨hfault, -⟩ := hname 4 w 0 (.text "class") (.user 7)
  obtain ⟨hnothing, -⟩ := hwaits 4 w 0 (.helper (.text "late") .absent) (.helper rfl (by decide +kernel) rfl)
  have hpath : Host.nested.toSurface.fullText w.forest 0 () = (.done "outer", ()) := rfl
  exact ⟨hs, hfrozen, (hadds _ (.group _ rfl)).told hpath, hfault "class" .notIdentifier rfl (by decide +kernel),
    hnothing⟩

/-- A closed group that cannot be put into words refuses declarations with the error that is in the way, and not with
the one that it is closed; likewise a name that is no text and cannot be shown. -/
theorem refusal_untold :
    let e := (Host.numbers (fun u => u == 9) nestedBlocks).engine 1
    let built := (e.buildGroup (.user 9) .absent (.initial () false)).2
    built.forest.isSealed 0 = true ∧
    e.declare 0 (.pending (.text "late")) built = (.raised (.thrown (.user 9)), built) ∧
    e.declare 0 (.helper (.user 9) (.user 7)) built = (.raised (.thrown (.user 9)), built) :=
  ⟨rfl, rfl, rfl⟩

end Exemplar

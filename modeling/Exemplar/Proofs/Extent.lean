import Exemplar.Proofs.Ancestry
import Exemplar.Proofs.Chronicle
import Exemplar.Proofs.Numbers

/-!
# Exemplar.Proofs.Extent — how long a group is open

Blocks end in the reverse order of their beginning, so at any moment the groups whose blocks are running form a stack.
A group is open while its own block runs, which is while it is on the stack; a nested group lies above its parent
there, for it was declared while the parent was open. So whatever stands above an open group is open, and when the
stack is empty everything is closed.

* `Extent.step`, `Extent.of_sound`: what one change keeps of this, and what a history does.
* `Host.open_while_block_runs`: how long the groups of a tree are open.
-/

namespace Exemplar

variable {U S : Type} {sf : Surface U S}

namespace Forest

section
variable {V : Type}

/-- On the stack each group that has a parent from number `base` on lies above this parent. -/
def Nested (f : Forest V) (base : Nat) : List Nat → Prop
  | [] => True
  | g :: st => (∀ p, f.parent? g = some p → base ≤ p → p ∈ st) ∧ f.Nested base st

theorem Nested.congr {f f' : Forest V} {base : Nat} {st : List Nat} (h : f.Nested base st)
    (hp : ∀ g ∈ st, f'.parent? g = f.parent? g) : f'.Nested base st := by
  induction st with
  | nil => trivial
  | cons g st ih =>
    refine ⟨fun p he => h.1 p (hp g (List.mem_cons_self ..) ▸ he), ih h.2 fun x hx => hp x ?_⟩
    exact List.mem_cons_of_mem _ hx

theorem Nested.parent_mem {f : Forest V} {base : Nat} {st : List Nat} (h : f.Nested base st) {g p : Nat} (hg : g ∈ st)
    (hp : f.parent? g = some p) (hb : base ≤ p) : p ∈ st := by
  induction st with
  | nil => simp at hg
  | cons x st ih =>
    rcases List.mem_cons.mp hg with rfl | hg
    · exact List.mem_cons_of_mem _ (h.1 p hp hb)
    · exact List.mem_cons_of_mem _ (ih h.2 hg)

/-- With a group all that stands above it is on the stack. -/
theorem Nested.above_mem {f : Forest V} (hf : f.WellFormed) {base : Nat} {st : List Nat} (h : f.Nested base st)
    {a g : Nat} (hu : f.Under a g) (hg : g ∈ st) (ha : base ≤ a) : a ∈ st := by
  induction hu with
  | refl => exact hg
  | step hp hu ih => exact ih (h.parent_mem hg hp (ha.trans (hu.le hf)))

end

/-- After the changes `cs` the blocks of the groups `st` are running, of which there was none before: those that have
begun and not ended. A group that has come into being is open no longer, and just as long if it was not closed by
itself. -/
structure Extent (f₀ : Forest (Value U)) (cs : List (Change (Value U))) (st : List Nat) : Prop where
  running (g : Nat) : g ∈ st ↔ g ∈ cs.filterMap Change.created? ∧ .ended g ∉ cs
  begun (g : Nat) : .ended g ∈ cs → g ∈ cs.filterMap Change.created?
  nodup : st.Nodup
  nested : (f₀.after cs).Nested f₀.groups.size st
  mem_of_open (g : Nat) : f₀.groups.size ≤ g → (f₀.after cs).isSealed g = false → g ∈ st
  open_of_mem (g : Nat) : .closed g ∉ cs → g ∈ st → (f₀.after cs).isSealed g = false

namespace Extent

variable {f₀ : Forest (Value U)} {cs : List (Change (Value U))} {st st' : List Nat} {c : Change (Value U)}

theorem nil (f₀ : Forest (Value U)) : f₀.Extent [] [] where
  running g := by simp
  begun g := by simp
  nodup := .nil
  nested := trivial
  mem_of_open g hg ho := by
    obtain ⟨gr, hgr, -⟩ := exists_of_isSealed ho
    have hlt : g < f₀.groups.size := (Array.getElem?_eq_some_iff.mp hgr).1
    omega
  open_of_mem g _ hg := by simp at hg

theorem mem_created_concat {g : Nat} : g ∈ (cs ++ [c]).filterMap Change.created? ↔
    g ∈ cs.filterMap Change.created? ∨ c.created? = some g := by
  rw [List.filterMap_append, List.mem_append]
  simp

section
variable (h : f₀.Extent cs st) (hs : f₀.Sound sf cs)
include h hs

theorem lt_of_mem {g : Nat} (hg : g ∈ st) : f₀.groups.size ≤ g ∧ g < (f₀.after cs).groups.size :=
  hs.mem_created_iff.mp ((h.running g).mp hg).1

variable (hc : (f₀.after cs).Admits sf c)
include hc

/-- The groups on the stack keep their places. -/
theorem parent?_concat {g : Nat} (hg : g ∈ st) : (f₀.after (cs ++ [c])).parent? g = (f₀.after cs).parent? g := by
  obtain ⟨gr, hgr⟩ : ∃ gr, (f₀.after cs).group? g = some gr :=
    ⟨_, Array.getElem?_eq_getElem (h.lt_of_mem hs hg).2⟩
  rw [after_concat]
  exact hc.grows.parent? hgr

/-- A new group begins its block. -/
theorem opens {id : Nat} (hid : c.created? = some id) : f₀.Extent (cs ++ [c]) (id :: st) := by
  have hnew : id ∉ cs.filterMap Change.created? := fun hm => by
    have hlt := (hs.mem_created_iff.mp hm).2
    have hsize := hc.of_created? hid
    omega
  obtain ⟨hended, hcloses⟩ : (∀ g, ¬ .ended g = c) ∧ c.closes? = none := by
    cases c <;> simp_all [Change.created?, Change.closes?]
  have hparent (p : Nat) (hp : (f₀.after (cs ++ [c])).parent? id = some p) : (f₀.after cs).isSealed p = false :=
    hc.isSealed_parent hid (after_concat f₀ cs c ▸ hp)
  refine ⟨fun g => ?_, fun g hg => ?_, ?_, ?_, fun g hb ho => ?_, fun g hn hg => ?_⟩
  · rw [mem_created_concat, hid, List.mem_append, List.mem_singleton, List.mem_cons, h.running g, Option.some_inj]
    constructor
    · rintro (rfl | ⟨hg, hn⟩)
      · exact ⟨.inr rfl, not_or.mpr ⟨fun hm => hnew (h.begun _ hm), hended _⟩⟩
      · exact ⟨.inl hg, not_or.mpr ⟨hn, hended g⟩⟩
    · rintro ⟨hg | rfl, hn⟩
      · exact .inr ⟨hg, fun hm => hn (.inl hm)⟩
      · exact .inl rfl
  · rw [List.mem_append, List.mem_singleton] at hg
    exact mem_created_concat.mpr (.inl (h.begun g (hg.resolve_right (hended g))))
  · exact List.nodup_cons.mpr ⟨fun hm => hnew ((h.running id).mp hm).1, h.nodup⟩
  · exact ⟨fun p hp hb => h.mem_of_open p hb (hparent p hp), h.nested.congr fun g hg => h.parent?_concat hs hc hg⟩
  · rw [after_concat, hc.isSealed_change, hid, hcloses] at ho
    by_cases he : id = g
    · exact he ▸ List.mem_cons_self ..
    · exact List.mem_cons_of_mem _ (h.mem_of_open g hb (by simpa [he] using ho))
  · rw [after_concat, hc.isSealed_change, hid, hcloses]
    by_cases he : id = g
    · simp [he]
    · have hmem := (List.mem_cons.mp hg).resolve_left (Ne.symm he)
      have hg := h.open_of_mem g (fun hi => hn (List.mem_append_left _ hi)) hmem
      simp [he, hg]

/-- The innermost block ends. -/
theorem ends {g : Nat} {st' : List Nat} (hst : st = g :: st') (hg : c = .ended g) : f₀.Extent (cs ++ [c]) st' := by
  subst hst hg
  have hnodup := List.nodup_cons.mp h.nodup
  have hne {x : Nat} (hx : x ∈ st') : g ≠ x := fun he => hnodup.1 (he ▸ hx)
  refine ⟨fun x => ?_, fun x hx => ?_, hnodup.2, ?_, fun x hb ho => ?_, fun x hn hx => ?_⟩
  · have hx := h.running x
    rw [mem_created_concat, List.mem_append, List.mem_singleton]
    by_cases he : g = x
    · subst he
      simp [hnodup.1, Change.created?]
    · simp_all [Change.created?, eq_comm]
  · rw [List.mem_append, List.mem_singleton] at hx
    refine mem_created_concat.mpr (.inl ?_)
    rcases hx with hx | hx
    · exact h.begun x hx
    · obtain rfl : x = g := by simpa using hx
      exact ((h.running x).mp (List.mem_cons_self ..)).1
  · exact h.nested.2.congr fun x hx => h.parent?_concat hs hc (List.mem_cons_of_mem _ hx)
  · rw [after_concat, hc.isSealed_change] at ho
    simp only [Change.created?, Change.closes?, reduceCtorEq, if_false, Bool.or_eq_false_iff] at ho
    have hne : g ≠ x := by simpa using ho.2
    exact (List.mem_cons.mp (h.mem_of_open x hb ho.1)).resolve_left hne.symm
  · rw [after_concat, hc.isSealed_change]
    have ho := h.open_of_mem x (fun hi => hn (List.mem_append_left _ hi)) (List.mem_cons_of_mem _ hx)
    simp [Change.created?, Change.closes?, ho, hne hx]

/-- No block begins or ends. -/
theorem stays (hcr : c.created? = none) (hend : ∀ g, ¬ .ended g = c) : f₀.Extent (cs ++ [c]) st := by
  refine ⟨fun x => ?_, fun x hx => ?_, h.nodup, ?_, fun x hb ho => ?_, fun x hn hx => ?_⟩
  · simp [hcr, h.running x, hend x]
  · rw [List.mem_append, List.mem_singleton] at hx
    exact mem_created_concat.mpr (.inl (h.begun x (hx.resolve_right (hend x))))
  · exact h.nested.congr fun x hx => h.parent?_concat hs hc hx
  · rw [after_concat, hc.isSealed_change, hcr] at ho
    exact h.mem_of_open x hb (by simp_all)
  · have hcloses : c.closes? ≠ some x := fun he => by
      cases c with
      | closed g =>
        obtain rfl : g = x := Option.some.inj he
        exact hn (List.mem_append_right _ (List.mem_singleton_self _))
      | ended g => exact hend g rfl
      | _ => cases he
    have ho := h.open_of_mem x (fun hi => hn (List.mem_append_left _ hi)) hx
    rw [after_concat, hc.isSealed_change, hcr, ho]
    simpa using hcloses

theorem step {st' : List Nat} (hb : c.blocks st = some st') : f₀.Extent (cs ++ [c]) st' := by
  cases c with
  | root id d t => exact Option.some.inj hb ▸ h.opens hs hc rfl
  | child id p d => exact Option.some.inj hb ▸ h.opens hs hc rfl
  | ended g =>
    cases st with
    | nil => simp [Change.blocks] at hb
    | cons i st =>
      simp only [Change.blocks, Option.ite_none_right_eq_some, Option.some.injEq] at hb
      obtain ⟨rfl, rfl⟩ := hb
      exact h.ends hs hc rfl rfl
  | _ =>
    obtain rfl : st = st' := by cases st <;> simpa [Change.blocks] using hb
    exact h.stays hs hc rfl fun _ hg => by cases hg

end

theorem of_sound (hs : f₀.Sound sf cs) (hr : Change.running [] cs = some st) : f₀.Extent cs st := by
  induction cs using List.reverseRecOn generalizing st with
  | nil =>
    obtain rfl : [] = st := Option.some.inj hr
    exact .nil f₀
  | append_singleton cs c ih =>
    rw [Change.running_append, Option.bind_eq_some_iff] at hr
    obtain ⟨st₁, hr, hb⟩ := hr
    obtain ⟨hs, hc⟩ := sound_concat.mp hs
    exact (ih hs hr).step hs hc (by simpa [Change.running] using hb)

end Extent

/-- When no block is running any more, all groups that have come into being are closed. -/
theorem Sound.closed {f₀ : Forest (Value U)} {cs : List (Change (Value U))} (h : f₀.Sound sf cs)
    (hr : Change.running [] cs = some []) {g : Nat} (hg : f₀.groups.size ≤ g) :
    (f₀.after cs).isSealed g = true := by
  have hext := Extent.of_sound h hr
  rw [← Bool.not_eq_false]
  exact fun ho => by simpa using hext.mem_of_open g hg ho

end Forest

/-- How long the groups of a tree are open, told by its history. At any moment a group that has come into being and is
open has a block that has not ended. As long as its block has not ended it is open, and so is all that stands above an
open group, but for what was closed by hand. The root is closed at once if it has no block. In the end, in whatever way
it has come about, all groups are closed. -/
theorem Host.open_while_block_runs (h : Host U S) (n : Nat) (description block : Value U) {w : World U S}
    (hw : w.forest.WellFormed) :
    ((h.engine n).buildGroup description block w).2.forest = w.forest.after (h.chronicle n description block w) ∧
    (block.isAbsent = true → h.chronicle n description block w =
      [.root w.forest.groups.size description (h.toSurface.targetOf description w.outside),
        .ended w.forest.groups.size]) ∧
    (∀ cs f, cs <+: h.chronicle n description block w → f = w.forest.after cs → ∀ g, w.forest.groups.size ≤ g →
      (f.isSealed g = false → g ∈ cs.filterMap Change.created? ∧ .ended g ∉ cs) ∧
      (g ∈ cs.filterMap Change.created? → .ended g ∉ cs → f.isSealed g = false ∨ .closed g ∈ cs) ∧
      (f.isSealed g = false → ∀ a ∈ f.ancestors g, w.forest.groups.size ≤ a → f.isSealed a = false ∨ .closed a ∈ cs)) ∧
    ∀ g, w.forest.groups.size ≤ g → ((h.engine n).buildGroup description block w).2.forest.isSealed g = true := by
  obtain ⟨-, hforest, hsound, cs, ds, he, hcs, hds, habsent⟩ := h.buildGroup_chronicle n description block w
  have hrunning : Change.running [] (h.chronicle n description block w) = some [] := by
    rw [he]
    exact hcs.running_tree hds
  refine ⟨hforest, fun hb => ?_, ?_, fun g hg => ?_⟩
  · obtain ⟨rfl, rfl⟩ := habsent hb
    exact he
  · rintro p _ ⟨q, hq⟩ rfl g hg
    rw [← hq, Change.running_append, Option.bind_eq_some_iff] at hrunning
    obtain ⟨st, hst, -⟩ := hrunning
    have hsoundp := (Forest.sound_append.mp (hq ▸ hsound)).1
    have hext := Forest.Extent.of_sound hsoundp hst
    have hopen {a : Nat} (ha : a ∈ st) : (w.forest.after p).isSealed a = false ∨ .closed a ∈ p :=
      or_iff_not_imp_right.mpr fun hn => hext.open_of_mem a hn ha
    refine ⟨fun ho => (hext.running g).mp (hext.mem_of_open g hg ho),
      fun hc hn => hopen ((hext.running g).mpr ⟨hc, hn⟩), fun ho a ha hbase => hopen ?_⟩
    have hunder := Forest.under_of_mem_ancestors ha
    exact hext.nested.above_mem (hsoundp.wellFormed hw) hunder (hext.mem_of_open g hg ho) hbase
  · exact hforest ▸ hsound.closed hrunning hg

/-- While the nested block runs both groups are open; in the end both are closed, though the nested block has raised. -/
theorem open_while_nested_block_runs :
    let start : World Nat Unit := .initial () false
    let f := start.forest.after ((Host.nested.chronicle 4 (.text "outer") (.user 1) start).take 5)
    f.isSealed 1 = false ∧ f.isSealed 0 = false ∧
      ∀ g, ((Host.nested.engine 4).buildGroup (.text "outer") (.user 1) start).2.forest.isSealed g = true := by
  obtain ⟨-, -, hopen, hclosed⟩ :=
    Host.nested.open_while_block_runs 4 (.text "outer") (.user 1) (w := .initial () false) .empty
  have hbegun : ∀ c ∈ (Host.nested.chronicle 4 (.text "outer") (.user 1) (.initial () false)).take 5,
      c.closes? = none := by decide +kernel
  obtain ⟨-, hblock, habove⟩ := hopen _ _ (List.take_prefix 5 _) rfl 1 (Nat.zero_le _)
  have hinner := (hblock (by decide +kernel) fun hg => nomatch hbegun _ hg).resolve_right fun hg => nomatch hbegun _ hg
  have houter := (habove hinner 0 (by decide +kernel) (Nat.zero_le _)).resolve_right fun hg => nomatch hbegun _ hg
  exact ⟨hinner, houter, fun g => hclosed g (Nat.zero_le _)⟩

end Exemplar

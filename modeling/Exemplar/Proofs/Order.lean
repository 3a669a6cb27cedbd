import Exemplar.Proofs.Ancestry
import Exemplar.Proofs.Chronicle
import Exemplar.Proofs.Numbers
import Mathlib.Data.List.Perm.Basic

/-!
# Exemplar.Proofs.Order — in which order the examples come

A group's entries stand in the order of their declaration, and the examples of a nested group come at its place. So a
walk through a tree finds what has been declared in it, all of it and nothing twice, whichever builder it was declared
on. If each block uses only its own builder, the blocks that are running lead down to the end of the tree: whatever
is declared next comes last.

* `WellFormed.walk_eq`: a walk entry by entry.
* `mem_walk`, `nodup_walk`: what a walk finds, and that it finds it once.
* `Spine.walk_base`: a declaration at the end of the tree comes last.
* `Host.walk_of_history`: the walk through a tree, told by its history.
-/

namespace Exemplar

namespace Forest

section
variable {V : Type} {f f' : Forest V} {g c : Nat} {base : Nat}

/-! ## Walking entry by entry -/

/-- What a walk finds at an entry. -/
def walkEntry (f : Forest V) : Entry V → List (Example V)
  | .example x => [x]
  | .group c => f.walk c

theorem WellFormed.walk_eq (h : f.WellFormed) (g : Nat) : f.walk g = (f.entries g).flatMap f.walkEntry := by
  unfold walk
  rw [walkTo_eq, gatherTo_stable h _ _ _ _ (Nat.le_add_right ..), gatherTo_succ]
  refine List.flatMap_congr fun entry _ => ?_
  cases entry with
  | group c => exact (walkTo_eq _ _).symm
  | «example» x => rfl

/-- A group that is entered in another one is there. -/
theorem WellFormed.lt_size_of_child (h : f.WellFormed) (hc : .group c ∈ f.entries g) : g < c ∧ c < f.groups.size := by
  have hmem := mem_children.mpr hc
  obtain ⟨gr, hgr, -⟩ := Option.bind_eq_some_iff.mp (h.entered hmem)
  exact ⟨h.lt_of_child hmem, (Array.getElem?_eq_some_iff.mp hgr).1⟩

/-- To prove something of a group one may take it for granted of the groups in it. -/
theorem WellFormed.descend (h : f.WellFormed) {P : Nat → Prop}
    (step : ∀ g, (∀ c, .group c ∈ f.entries g → P c) → P g) (g : Nat) : P g := by
  induction hk : f.groups.size - g using Nat.strong_induction_on generalizing g with
  | _ k ih =>
    refine step g fun c hc => ?_
    have hlt := h.lt_size_of_child hc
    exact ih _ (by omega) c rfl

/-- A walk depends on the entries below the group only. -/
theorem WellFormed.walk_congr (h : f.WellFormed) (h' : f'.WellFormed)
    (he : ∀ y, f.Under g y → f'.entries y = f.entries y) : f'.walk g = f.walk g := by
  induction g using h.descend with
  | _ g ih =>
    rw [h.walk_eq, h'.walk_eq, he g .refl]
    refine List.flatMap_congr fun entry hentry => ?_
    cases entry with
    | group c =>
      have hp := h.entered (mem_children.mpr hentry)
      exact ih c hentry fun y hy => he y (Under.trans (.step hp .refl) hy)
    | «example» x => rfl

/-! ## Finding everything, once -/

/-- From number `base` on, examples tell the group and the place where they are entered, and nested groups are entered
in their parents. -/
structure Placed (f : Forest V) (base : Nat) : Prop where
  place {g i : Nat} {x : Example V} : base ≤ g → (f.entries g)[i]? = some (.example x) → x.group = g ∧ x.place = i
  entered {c p : Nat} : base ≤ p → f.parent? c = some p → .group c ∈ f.entries p

section
variable (h : f.WellFormed) (hp : f.Placed base)
include h hp

/-- What is found in a nested group is found in the groups above it. -/
theorem Placed.walk_subset {a : Nat} (ha : base ≤ a) (hu : f.Under a g) : f.walk g ⊆ f.walk a := by
  induction hu with
  | refl => exact fun _ hx => hx
  | @step p c hparent hu ih =>
    refine fun x hx => ih ?_
    rw [h.walk_eq p, List.mem_flatMap]
    exact ⟨.group c, hp.entered (ha.trans (hu.le h)) hparent, hx⟩

/-- A walk finds the examples that are entered in the groups below. -/
theorem Placed.mem_walk (hb : base ≤ g) {x : Example V} :
    x ∈ f.walk g ↔ f.Under g x.group ∧ .example x ∈ f.entries x.group := by
  constructor
  · induction g using h.descend with
    | _ g ih =>
      rw [h.walk_eq, List.mem_flatMap]
      rintro ⟨entry, hentry, hx⟩
      cases entry with
      | group c =>
        have hlt := h.lt_size_of_child hentry
        obtain ⟨hu, he⟩ := ih c hentry (by omega) hx
        exact ⟨Under.trans (.step (h.entered (mem_children.mpr hentry)) .refl) hu, he⟩
      | «example» y =>
        obtain rfl := List.mem_singleton.mp hx
        obtain ⟨i, hi⟩ := List.mem_iff_getElem?.mp hentry
        obtain ⟨rfl, -⟩ := hp.place hb hi
        exact ⟨.refl, hentry⟩
  · rintro ⟨hu, he⟩
    refine hp.walk_subset h hb hu ?_
    rw [h.walk_eq, List.mem_flatMap]
    exact ⟨_, he, List.mem_singleton_self x⟩

theorem Placed.nodup_entries (hb : base ≤ g) : (f.entries g).Nodup := by
  have honce := List.pairwise_filterMap.mp (h.once g)
  rw [List.pairwise_iff_getElem] at honce
  rw [List.Nodup, List.pairwise_iff_getElem]
  intro i j hi hj hij he
  cases hx : (f.entries g)[i] with
  | group c => exact honce i j hi hj hij c (by rw [hx]) c (by rw [← he, hx]) rfl
  | «example» x =>
    have hplace {k : Nat} (hk : k < (f.entries g).length) (he : (f.entries g)[k] = .example x) : x.place = k :=
      (hp.place hb (by rw [List.getElem?_eq_getElem hk, he])).2
    have hii := hplace hi hx
    have hjj := hplace hj (he ▸ hx)
    omega

/-- What a walk finds at an entry tells the entry: it stands below the group that is entered, or it is the example
itself, which stands in the group. -/
theorem Placed.of_mem_walkEntry (hb : base ≤ g) {entry : Entry V} (hentry : entry ∈ f.entries g) {x : Example V}
    (hx : x ∈ f.walkEntry entry) : (∃ c, entry = .group c ∧ f.Under c x.group) ∨ entry = .example x ∧ x.group = g := by
  cases entry with
  | group c => exact .inl ⟨c, rfl, ((hp.mem_walk h (hb.trans (h.lt_size_of_child hentry).1.le)).mp hx).1⟩
  | «example» y =>
    obtain rfl := List.mem_singleton.mp hx
    obtain ⟨i, hi⟩ := List.mem_iff_getElem?.mp hentry
    exact .inr ⟨rfl, (hp.place hb hi).1⟩

/-- What a walk finds at different entries is different. -/
theorem Placed.disjoint_walkEntry (hb : base ≤ g) {a b : Entry V} (ha : a ∈ f.entries g) (hb' : b ∈ f.entries g)
    (hne : a ≠ b) : (f.walkEntry a).Disjoint (f.walkEntry b) := by
  have hapart {c : Nat} {x : Example V} (hc : .group c ∈ f.entries g) (hu : f.Under c x.group) : x.group ≠ g := by
    have hle := hu.le h
    have hlt := (h.lt_size_of_child hc).1
    omega
  intro x hxa hxb
  rcases hp.of_mem_walkEntry h hb ha hxa with ⟨c, rfl, hc⟩ | ⟨rfl, hx⟩
  · rcases hp.of_mem_walkEntry h hb hb' hxb with ⟨d, rfl, hd⟩ | ⟨rfl, hx⟩
    · have hcd : c ≠ d := fun he => hne (he ▸ rfl)
      rcases hc.linear hd with hu | hu
      · exact h.not_under_of_children (mem_children.mpr ha) (mem_children.mpr hb') hcd hu
      · exact h.not_under_of_children (mem_children.mpr hb') (mem_children.mpr ha) hcd.symm hu
    · exact hapart ha hc hx
  · rcases hp.of_mem_walkEntry h hb hb' hxb with ⟨d, rfl, hd⟩ | ⟨rfl, -⟩
    · exact hapart hb' hd hx
    · exact hne rfl

/-- A walk finds nothing twice. -/
theorem Placed.nodup_walk (hb : base ≤ g) : (f.walk g).Nodup := by
  induction g using h.descend with
  | _ g ih =>
    rw [h.walk_eq, List.nodup_flatMap]
    refine ⟨fun entry hentry => ?_, (hp.nodup_entries h hb).imp_of_mem fun {a b} ha hb' hne => ?_⟩
    · cases entry with
      | group c => exact ih c hentry (hb.trans (h.lt_size_of_child hentry).1.le)
      | «example» x => exact List.nodup_singleton x
    · exact hp.disjoint_walkEntry h hb ha hb' hne

end

/-! ## The end of the tree -/

/-- Each group on the stack is the last entry of the one below it. -/
inductive Spine (f : Forest V) : List Nat → Prop
  | nil : Spine f []
  | single (g : Nat) : Spine f [g]
  | cons {g p : Nat} {st : List Nat} (hl : (f.entries p).getLast? = some (.group g)) (h : Spine f (p :: st)) :
    Spine f (g :: p :: st)

namespace Spine

theorem tail {st : List Nat} (hs : f.Spine (g :: st)) : f.Spine st := by
  cases hs with
  | single => exact .nil
  | cons _ h => exact h

theorem lt (h : f.WellFormed) {st : List Nat} (hs : f.Spine (g :: st)) {p : Nat} (hp : p ∈ st) : p < g := by
  induction st generalizing g with
  | nil => simp at hp
  | cons q st ih =>
    cases hs with
    | cons hl hs =>
      have hlt := (h.lt_size_of_child (List.mem_of_getLast? hl)).1
      rcases List.mem_cons.mp hp with rfl | hp
      · exact hlt
      · exact (ih hs hp).trans hlt

/-- What is declared in the uppermost group of the stack does not matter. -/
theorem congr {st : List Nat} (hs : f.Spine (g :: st)) (he : ∀ p ∈ st, f'.entries p = f.entries p) :
    f'.Spine (g :: st) := by
  induction st generalizing g with
  | nil => exact .single g
  | cons q st ih =>
    cases hs with
    | cons hl hs =>
      refine .cons ?_ (ih hs fun p hp => he p (List.mem_cons_of_mem _ hp))
      rwa [he q (List.mem_cons_self ..)]

section
variable {e : Entry V} (h : f.WellFormed) (h' : f'.WellFormed)
  (hother : ∀ y, y ≠ g → f'.entries y = f.entries y)
include h h' hother

theorem walk_of_not_under {c : Nat} (hc : ¬ f.Under c g) : f'.walk c = f.walk c :=
  h.walk_congr h' fun y hy => hother y fun hyg => hc (hyg ▸ hy)

/-- Whatever is found last in a group is found last in the group of which it is the last entry. -/
theorem walk_parent {q p : Nat} (hl : (f.entries p).getLast? = some (.group q)) (hu : f.Under q g)
    (hw : f'.walk q = f.walk q ++ f'.walkEntry e) : f'.walk p = f.walk p ++ f'.walkEntry e := by
  obtain ⟨init, hinit⟩ := List.getLast?_eq_some_iff.mp hl
  have hmem : .group q ∈ f.entries p := List.mem_of_getLast? hl
  have hp : p ≠ g := by
    have hlt := (h.lt_size_of_child hmem).1
    have hle := hu.le h
    omega
  have hrest : init.flatMap f'.walkEntry = init.flatMap f.walkEntry := by
    refine List.flatMap_congr fun entry hentry => ?_
    cases entry with
    | group d =>
      have hd : d ∈ f.children p := mem_children.mpr (hinit ▸ List.mem_append_left _ hentry)
      have hq : q ∈ f.children p := mem_children.mpr hmem
      have hne : d ≠ q := fun he => by
        have honce := h.once p
        rw [children, hinit, List.filterMap_append, List.nodup_append] at honce
        exact honce.2.2 d (List.mem_filterMap.mpr ⟨_, hentry, rfl⟩) q (by simp) he
      refine walk_of_not_under h h' hother fun hdg => ?_
      rcases hdg.linear hu with hdq | hqd
      · exact h.not_under_of_children hd hq hne hdq
      · exact h.not_under_of_children hq hd hne.symm hqd
    | «example» x => rfl
  rw [h.walk_eq, h'.walk_eq, hother p hp, hinit, List.flatMap_append, List.flatMap_append, hrest, List.append_assoc]
  simp only [List.flatMap_cons, List.flatMap_nil, List.append_nil, walkEntry, hw]

variable (hg : f'.entries g = f.entries g ++ [e])
include hg

/-- Whatever is entered last in the group is found last in it. -/
theorem walk_self : f'.walk g = f.walk g ++ f'.walkEntry e := by
  rw [h.walk_eq, h'.walk_eq, hg, List.flatMap_append]
  congr 1
  · refine List.flatMap_congr fun entry hentry => ?_
    cases entry with
    | group c =>
      have hlt := (h.lt_size_of_child hentry).1
      exact walk_of_not_under h h' hother fun hu => by have hle := hu.le h; omega
    | «example» x => rfl
  · simp

/-- Whatever is entered last in the uppermost group of the stack is found last in the lowest. -/
theorem walk_base {st : List Nat} {b : Nat} (hs : f.Spine (g :: st)) (hb : (g :: st).getLast? = some b) :
    f'.walk b = f.walk b ++ f'.walkEntry e := by
  have hstep (st : List Nat) : ∀ q, f.Spine (q :: st) → f.Under q g → f'.walk q = f.walk q ++ f'.walkEntry e →
      (q :: st).getLast? = some b → f'.walk b = f.walk b ++ f'.walkEntry e := by
    induction st with
    | nil =>
      intro q _ _ hw hb
      obtain rfl : q = b := by simpa using hb
      exact hw
    | cons p st ih =>
      intro q hs hu hw hb
      cases hs with
      | cons hl hs =>
        have hparent := h.entered (mem_children.mpr (List.mem_of_getLast? hl))
        refine ih p hs (Under.trans (.step hparent .refl) hu) (walk_parent h h' hother hl hu hw) ?_
        simpa using hb
  exact hstep st g hs .refl (walk_self h h' hother hg) hb

end
end Spine
end
end Forest

/-! ## What the history tells -/

section
variable {U S : Type} {sf : Surface U S} {f : Forest (Value U)} {cs : List (Change (Value U))}

namespace Forest

/-- A change leaves the examples in their places and enters nested groups in their parents. -/
theorem Placed.change {base : Nat} {c : Change (Value U)} (hp : f.Placed base) (hc : f.Admits sf c) :
    (f.change c).Placed base := by
  refine ⟨fun {g i x} hg hx => ?_, fun {k p} hb hk => ?_⟩
  · rw [hc.entries_change, List.getElem?_append] at hx
    split at hx
    · exact hp.place hg hx
    · obtain ⟨e, he, hx⟩ : ∃ e, c.entryIn? g = some e ∧ i - (f.entries g).length = 0 ∧ e = .example x := by
        cases he : c.entryIn? g with
        | none => simp [he] at hx
        | some e => exact ⟨e, rfl, by simpa [he, List.getElem?_singleton] using hx⟩
      obtain ⟨hi, rfl⟩ := hx
      obtain ⟨rfl, rfl⟩ := Change.entryIn?_eq_example.mp he
      exact ⟨rfl, hc.2.trans (by omega)⟩
  · rw [hc.parent?_change] at hk
    rw [hc.entries_change, List.mem_append]
    cases hfresh : c.fresh? k with
    | none => exact .inl (hp.entered hb (by simpa [hfresh] using hk))
    | some gr =>
      refine .inr (Option.mem_toList.mpr (Change.entryIn?_eq_group.mpr ?_))
      cases c with
      | child id q d =>
        simp only [Change.fresh?, Option.ite_none_right_eq_some, Option.some.injEq] at hfresh
        obtain ⟨rfl, rfl⟩ := hfresh
        obtain rfl : q = p := by simpa [Change.fresh?, Group.fresh] using hk
        exact ⟨d, rfl⟩
      | root id d t =>
        simp only [Change.fresh?, Option.ite_none_right_eq_some, Option.some.injEq] at hfresh
        obtain ⟨rfl, rfl⟩ := hfresh
        simp [Change.fresh?, Group.fresh] at hk
      | _ => simp [Change.fresh?] at hfresh

theorem Sound.placed (h : f.Sound sf cs) (hf : f.WellFormed) : (f.after cs).Placed f.groups.size := by
  induction cs using List.reverseRecOn with
  | nil =>
    refine ⟨fun {g i x} hg hx => ?_, fun {c p} hb hp => ?_⟩
    · rw [after_nil, entries_of_size_le hg] at hx
      simp at hx
    · obtain ⟨gr, hgr, -⟩ := Option.bind_eq_some_iff.mp hp
      have hlt := (Array.getElem?_eq_some_iff.mp hgr).1
      have hpc := hf.descends hp
      rw [after_nil] at hlt
      omega
  | append_singleton cs c ih =>
    obtain ⟨hs, hc⟩ := sound_concat.mp h
    rw [after_concat]
    exact (ih hs).change hc

/-- No example has been declared twice. -/
theorem Sound.nodup_examples (h : f.Sound sf cs) :
    (cs.filterMap Change.example?).Nodup ∧
      ∀ x ∈ cs.filterMap Change.example?, x.place < ((f.after cs).entries x.group).length := by
  induction cs using List.reverseRecOn with
  | nil => simp
  | append_singleton cs c ih =>
    obtain ⟨hs, hc⟩ := sound_concat.mp h
    obtain ⟨hnodup, hplace⟩ := ih hs
    have hold {x : Example (Value U)} (hx : x ∈ cs.filterMap Change.example?) :
        x.place < ((f.after (cs ++ [c])).entries x.group).length := by
      rw [after_concat, hc.entries_change, List.length_append]
      exact (hplace x hx).trans_le (Nat.le_add_right ..)
    cases he : c.example? with
    | none =>
      have hsame : (cs ++ [c]).filterMap Change.example? = cs.filterMap Change.example? := by simp [he]
      exact hsame ▸ ⟨hnodup, fun x hx => hold hx⟩
    | some x =>
      obtain rfl : c = .example x := by cases c <;> simp_all [Change.example?]
      have hlast : List.filterMap Change.example? [.example x] = [x] := rfl
      rw [List.filterMap_append, hlast]
      refine ⟨List.nodup_append.mpr ⟨hnodup, List.nodup_singleton x, fun y hy z hz hyz => ?_⟩, fun y hy => ?_⟩
      · obtain rfl : y = x := hyz.trans (List.mem_singleton.mp hz)
        have hlt := hplace y hy
        rw [hc.2] at hlt
        omega
      · rcases List.mem_append.mp hy with hy | hy
        · exact hold hy
        · obtain rfl := List.mem_singleton.mp hy
          rw [after_concat, hc.entries_change, List.length_append, hc.2]
          simp [Change.entryIn?]

end Forest
end

/-! ## Blocks that keep to themselves -/

section
variable {U S : Type} {sf : Surface U S} {f : Forest (Value U)} {cs : List (Change (Value U))} {st : List Nat}
  {base : Nat} {c : Change (Value U)}

/-- The group on whose builder the declaration is made. -/
def Change.declaredIn? {V : Type} : Change V → Option Nat
  | .child _ p _ => some p
  | .example x => some x.group
  | .define g _ => some g
  | _ => none

/-- Each block uses only the builder it receives: what is declared while the blocks of the groups `st` are running is
declared in the group whose block is the innermost one. -/
def Change.Local {V : Type} (st : List Nat) : List (Change V) → Prop
  | [] => True
  | c :: cs => (∀ g ∈ c.declaredIn?, st.head? = some g) ∧ ∀ st' ∈ c.blocks st, Local st' cs

instance Change.decidableLocal {V : Type} (st : List Nat) : (cs : List (Change V)) → Decidable (Local st cs)
  | [] => inferInstanceAs (Decidable True)
  | c :: cs =>
    have (st' : List Nat) := decidableLocal st' cs
    inferInstanceAs (Decidable ((∀ g ∈ c.declaredIn?, st.head? = some g) ∧ ∀ st' ∈ c.blocks st, Local st' cs))

/-- This holds of a history if it holds of what has happened so far and of the next change. -/
theorem Change.local_concat {V : Type} {st st' : List Nat} {cs : List (Change V)} {c : Change V}
    (h : Local st (cs ++ [c])) (hr : running st cs = some st') :
    Local st cs ∧ ∀ g ∈ c.declaredIn?, st'.head? = some g := by
  induction cs generalizing st with
  | nil =>
    obtain rfl : st = st' := Option.some.inj hr
    exact ⟨trivial, h.1⟩
  | cons c' cs ih =>
    obtain ⟨st₁, hb, hr⟩ := Option.bind_eq_some_iff.mp (show (c'.blocks st).bind (running · cs) = some st' from hr)
    obtain ⟨hcs, hc⟩ := ih (h.2 st₁ hb) hr
    refine ⟨⟨h.1, fun st₂ hst₂ => ?_⟩, hc⟩
    obtain rfl : st₁ = st₂ := Option.some.inj (hb.symm.trans hst₂)
    exact hcs

/-- The groups whose blocks are running lead down to the end of the tree below `base`. -/
structure Forest.AtEnd (f : Forest (Value U)) (base : Nat) (st : List Nat) : Prop where
  spine : f.Spine st
  base : ∀ g ∈ st.getLast?, g = base

namespace Forest.AtEnd

theorem pop {g : Nat} (h : f.AtEnd base (g :: st)) : f.AtEnd base st := by
  refine ⟨h.spine.tail, fun x hx => h.base x ?_⟩
  cases st with
  | nil => simp at hx
  | cons p st => simpa using hx

section
variable (h : f.AtEnd base st) (hf : f.WellFormed) (hc : f.Admits sf c)
include h hf hc

/-- A change that enters nothing lets the walk be. -/
theorem change_of_none (he : ∀ g, c.entryIn? g = none) :
    (f.change c).AtEnd base st ∧ (f.change c).walk base = f.walk base := by
  have hentries (g : Nat) : (f.change c).entries g = f.entries g := by simp [hc.entries_change, he]
  refine ⟨⟨?_, h.base⟩, hf.walk_congr (hc.wellFormed hf) fun y _ => hentries y⟩
  cases st with
  | nil => exact .nil
  | cons g st => exact h.spine.congr fun p _ => hentries p

/-- What is entered in the group whose block is the innermost one comes last. -/
theorem change_of_some {g : Nat} {st' : List Nat} {e : Entry (Value U)} (hst : st = g :: st')
    (he : c.entryIn? g = some e) (hother : ∀ y, y ≠ g → c.entryIn? y = none) :
    (f.change c).AtEnd base st ∧ (f.change c).walk base = f.walk base ++ (f.change c).walkEntry e := by
  subst hst
  have hsame (y : Nat) (hy : y ≠ g) : (f.change c).entries y = f.entries y := by simp [hc.entries_change, hother y hy]
  have hlast : (f.change c).entries g = f.entries g ++ [e] := by simp [hc.entries_change, he]
  obtain ⟨b, hb⟩ : ∃ b, (g :: st').getLast? = some b := ⟨_, List.getLast?_eq_some_getLast (List.cons_ne_nil _ _)⟩
  obtain rfl := h.base b hb
  refine ⟨⟨h.spine.congr fun p hp => hsame p (h.spine.lt hf hp).ne, h.base⟩, ?_⟩
  exact h.spine.walk_base hf (hc.wellFormed hf) hsame hlast hb

/-- A nested group is empty at first, and its block is the innermost one from now on. -/
theorem change_child {id g : Nat} {d : Value U} {st' : List Nat} (hst : st = g :: st') (hchild : c = .child id g d) :
    (f.change c).AtEnd base (id :: st) ∧ (f.change c).walk base = f.walk base := by
  subst hst hchild
  have hother {y : Nat} (hy : y ≠ g) : (Change.child id g d).entryIn? y = none := if_neg fun he => hy he.symm
  obtain ⟨hend, hwalk⟩ := h.change_of_some hf hc rfl (Change.entryIn?_eq_group.mpr ⟨d, rfl⟩) fun y => hother
  have hlast : ((f.change (.child id g d)).entries g).getLast? = some (.group id) := by
    rw [hc.entries_change]
    simp [Change.entryIn?]
  have hempty : (f.change (.child id g d)).walk id = [] := by
    obtain ⟨gr, hgr, -⟩ := Forest.exists_of_isSealed hc.1
    have hlt := (Array.getElem?_eq_some_iff.mp hgr).1
    have hid : id = f.groups.size := hc.2
    rw [(hc.wellFormed hf).walk_eq, hc.entries_change, hother (by omega), hid, entries_of_size_le (Nat.le_refl _)]
    rfl
  refine ⟨⟨.cons hlast hend.spine, fun b hb => hend.base b (by simpa using hb)⟩, ?_⟩
  rw [hwalk, walkEntry, hempty, List.append_nil]

/-- What one change does to the walk if blocks use only the builders they receive: a new example comes last. -/
theorem step {st' : List Nat} (hroot : ∀ id d t, c ≠ .root id d t)
    (hlocal : ∀ g ∈ c.declaredIn?, st.head? = some g) (hb : c.blocks st = some st') :
    (f.change c).AtEnd base st' ∧ (f.change c).walk base = f.walk base ++ c.example?.toList := by
  have hflat (hst : c.blocks st = some st) : st = st' := Option.some.inj (hst.symm.trans hb)
  cases c with
  | root id d t => exact absurd rfl (hroot id d t)
  | child id p d =>
    obtain ⟨st', rfl⟩ := List.head?_eq_some_iff.mp (hlocal p rfl)
    obtain rfl := Option.some.inj hb
    simpa [Change.example?] using h.change_child hf hc rfl rfl
  | «example» x =>
    obtain ⟨st', rfl⟩ := List.head?_eq_some_iff.mp (hlocal x.group rfl)
    obtain rfl := hflat rfl
    exact h.change_of_some hf hc rfl (if_pos rfl) fun y hy => if_neg hy.symm
  | ended g =>
    cases st with
    | nil => simp [Change.blocks] at hb
    | cons i st =>
      simp only [Change.blocks, Option.ite_none_right_eq_some, Option.some.injEq] at hb
      obtain ⟨rfl, rfl⟩ := hb
      simpa [Change.example?] using h.pop.change_of_none hf hc fun _ => rfl
  | _ =>
    obtain rfl := hflat (by cases st <;> rfl)
    simpa [Change.example?] using h.change_of_none hf hc fun _ => rfl

end
end Forest.AtEnd

/-- If blocks use only the builders they receive, a walk through the tree goes through the examples in the order of
their declaration. -/
theorem Forest.Sound.walk_of_local {d : Value U} {t : Option (Value U)} (hf : f.WellFormed)
    (h : f.Sound sf (.root base d t :: cs)) (hroot : ∀ id d t, .root id d t ∉ cs)
    (hr : Change.running [] (.root base d t :: cs) = some st) (hlocal : Change.Local [] (.root base d t :: cs)) :
    (f.after (.root base d t :: cs)).AtEnd base st ∧
      (f.after (.root base d t :: cs)).walk base = cs.filterMap Change.example? := by
  induction cs using List.reverseRecOn generalizing st with
  | nil =>
    obtain rfl : [base] = st := Option.some.inj hr
    have hwf := h.wellFormed hf
    refine ⟨⟨.single base, fun b hb => by simpa using hb.symm⟩, ?_⟩
    have hid : base = f.groups.size := h.1
    rw [hwf.walk_eq, h.entries_after, hid, entries_of_size_le (Nat.le_refl _)]
    rfl
  | append_singleton cs c ih =>
    rw [← List.cons_append] at h hr hlocal ⊢
    obtain ⟨hs, hc⟩ := sound_concat.mp h
    rw [Change.running_append, Option.bind_eq_some_iff] at hr
    obtain ⟨st₁, hr, hb⟩ := hr
    obtain ⟨hlocal, hlast⟩ := Change.local_concat hlocal hr
    obtain ⟨hend, hwalk⟩ := ih hs (fun id d t hm => hroot id d t (List.mem_append_left _ hm)) hr hlocal
    have hstep := hend.step (hs.wellFormed hf) hc
      (fun id d t he => hroot id d t (he ▸ List.mem_append_right _ (List.mem_singleton_self _))) hlast
      (by simpa [Change.running] using hb)
    have hone : [c].filterMap Change.example? = c.example?.toList := by cases c <;> rfl
    rw [after_concat, List.filterMap_append, ← hwalk, hone]
    exact hstep

/-- The walk through a tree that its history leads to. -/
theorem Forest.Sound.walk_of_tree {d : Value U} {t : Option (Value U)} {ds es : List (Change (Value U))}
    (hf : f.WellFormed) (h : f.Sound sf cs) (he : cs = .root f.groups.size d t :: (ds ++ .ended f.groups.size :: es))
    (hds : Change.Whole ds) (hes : Change.Whole es) :
    ((f.after cs).walk f.groups.size).Nodup ∧
    ((f.after cs).walk f.groups.size).Perm
      ((cs.filterMap Change.example?).filter fun x => (f.after cs).root x.group == f.groups.size) ∧
    (∀ g ∈ cs.filterMap Change.created?, (f.after cs).entries g = cs.filterMap (·.entryIn? g) ∧
      (f.after cs).walk g = (cs.filterMap (·.entryIn? g)).flatMap (f.after cs).walkEntry) ∧
    (Change.Local [] cs → (f.after cs).walk f.groups.size = cs.filterMap Change.example?) := by
  have hwf := h.wellFormed hf
  have hplaced := h.placed hf
  have hentries (g : Nat) (hg : f.groups.size ≤ g) : (f.after cs).entries g = cs.filterMap (·.entryIn? g) := by
    rw [h.entries_after, entries_of_size_le hg, List.nil_append]
  have hnodup := hplaced.nodup_walk hwf (Nat.le_refl _)
  refine ⟨hnodup, ?_, fun g hg => ?_, fun hlocal => ?_⟩
  · refine (List.perm_ext_iff_of_nodup hnodup (h.nodup_examples.1.filter _)).mpr fun x => ?_
    rw [hplaced.mem_walk hwf (Nat.le_refl _), List.mem_filter, beq_iff_eq]
    have hnone : (f.after cs).parent? f.groups.size = none := h.parent?_root he
    have hunder : (f.after cs).Under f.groups.size x.group ↔ (f.after cs).root x.group = f.groups.size :=
      ⟨hwf.root_eq hnone, fun hr => hr ▸ under_of_mem_ancestors ((f.after cs).root_mem_ancestors x.group)⟩
    have hdeclared (hu : (f.after cs).Under f.groups.size x.group) :
        .example x ∈ (f.after cs).entries x.group ↔ x ∈ cs.filterMap Change.example? := by
      rw [hentries _ (hu.le hwf), List.mem_filterMap, List.mem_filterMap]
      refine exists_congr fun c => and_congr_right fun _ => ?_
      rw [Change.entryIn?_eq_example, Change.example?_eq_some]
      simp
    constructor
    · exact fun ⟨hu, hx⟩ => ⟨(hdeclared hu).mp hx, hunder.mp hu⟩
    · exact fun ⟨hx, hr⟩ => ⟨hunder.mpr hr, (hdeclared (hunder.mpr hr)).mpr hx⟩
  · have hbase := (h.mem_created_iff.mp hg).1
    exact ⟨hentries g hbase, (hwf.walk_eq g).trans (by rw [hentries g hbase])⟩
  · have hrunning : Change.running [] cs = some [] := he ▸ hds.running_tree hes
    have hrest (id : Nat) (d : Value U) (t : Option (Value U)) : .root id d t ∉ ds ++ .ended f.groups.size :: es := by
      have h₁ := hds.not_root id d t
      have h₂ := hes.not_root id d t
      simp [h₁, h₂]
    subst he
    exact (h.walk_of_local hf hrest hrunning hlocal).2

/-- The walk through a tree, told by its history. It goes through all examples that have been declared in the tree and
through none twice. Groups hold what was entered in them in the order of the calls, and the examples of a nested group
come at its place. If blocks use only the builders they receive, the walk goes through the examples in the order of
their declaration. -/
theorem Host.walk_of_history (h : Host U S) (n : Nat) (description block : Value U) {w : World U S}
    (hw : w.forest.WellFormed) :
    let cs := h.chronicle n description block w
    let f := w.forest.after cs
    ((h.engine n).buildGroup description block w).2.forest = f ∧
    (f.walk w.forest.groups.size).Nodup ∧
    (f.walk w.forest.groups.size).Perm
      ((cs.filterMap Change.example?).filter fun x => f.root x.group == w.forest.groups.size) ∧
    (∀ g ∈ cs.filterMap Change.created?, f.entries g = cs.filterMap (·.entryIn? g) ∧
      f.walk g = (cs.filterMap (·.entryIn? g)).flatMap f.walkEntry) ∧
    (Change.Local [] cs → f.walk w.forest.groups.size = cs.filterMap Change.example?) := by
  obtain ⟨-, hforest, hsound, ds, es, he, hds, hes, -⟩ := h.buildGroup_chronicle n description block w
  exact ⟨hforest, hsound.walk_of_tree hw he hds hes⟩

end

/-- The example that the nested block has declared around its own group comes after those of the nested group; where
each block uses its own builder, the examples come in the order of their declaration. -/
theorem walk_nested :
    let start : World Nat Unit := .initial () false
    let f := ((Host.nested.engine 4).buildGroup (.text "outer") (.user 1) start).2.forest
    let f' := ((Host.nested.engine 4).buildGroup (.text "outer") (.user 3) start).2.forest
    (f.walk 0).map (fun x => (x.group, x.place)) = [(1, 0), (0, 1), (0, 2)] ∧
      f'.walk 0 = (Host.nested.chronicle 4 (.text "outer") (.user 3) start).filterMap Change.example? := by
  obtain ⟨hforest, -, -, hgroups, -⟩ :=
    Host.nested.walk_of_history 4 (.text "outer") (.user 1) (w := .initial () false) .empty
  obtain ⟨hforest', -, -, -, hlocal⟩ :=
    Host.nested.walk_of_history 4 (.text "outer") (.user 3) (w := .initial () false) .empty
  refine ⟨?_, ?_⟩
  · rw [hforest, (hgroups 0 (by decide +kernel)).2]
    decide +kernel
  · rw [hforest']
    exact hlocal (by decide +kernel)

end Exemplar

import Exemplar.Proofs.Growth
import Mathlib.Data.List.Nodup
import Mathlib.Data.List.Perm.Subperm

/-!
# Exemplar.Proofs.Walk — walking through a closed tree

The driver does not list the examples of a tree at the start: it looks for the next one whenever the one before is
done. In a tree all of whose groups are closed this comes to the same as listing them, for nothing can be declared in
it any more, whatever else may be declared meanwhile. The number of entries that one search may look at is enough,
since no group is entered twice.

* `groupsTo_nodup`, `length_groupsTo_le`: each group is found below another at most once.
* `nextFrom_spec`: what a search finds, and what is left after it.
* `yields_walk`: the searches from the root on find the examples of the walk, one after the other.
-/

namespace Exemplar
namespace Forest

variable {V β : Type} {f f' : Forest V}

/-! ## Above and below -/

/-- The second group is the first one or stands below it. -/
inductive Under (f : Forest V) (a : Nat) : Nat → Prop
  | refl : Under f a a
  | step {p c : Nat} (hp : f.parent? c = some p) (h : Under f a p) : Under f a c

theorem Under.le (h : f.WellFormed) {a x : Nat} (hx : f.Under a x) : a ≤ x := by
  induction hx with
  | refl => exact Nat.le_refl a
  | step hp _ ih => exact ih.trans (h.descends hp).le

theorem Under.trans {a b x : Nat} (h : f.Under a b) (h' : f.Under b x) : f.Under a x := by
  induction h' with
  | refl => exact h
  | step hp _ ih => exact .step hp ih

/-- Of two groups above a third one, one stands above the other. -/
theorem Under.linear {a b x : Nat} (ha : f.Under a x) (hb : f.Under b x) : f.Under a b ∨ f.Under b a := by
  induction ha with
  | refl => exact Or.inr hb
  | step hp ha ih =>
    cases hb with
    | refl => exact Or.inl (.step hp ha)
    | step hp' hb =>
      obtain rfl := Option.some.inj (hp.symm.trans hp')
      exact ih hb

/-- Of two groups in the same group none stands below the other. -/
theorem WellFormed.not_under_of_children (h : f.WellFormed) {g a b : Nat} (ha : a ∈ f.children g)
    (hb : b ∈ f.children g) (hne : a ≠ b) : ¬ f.Under a b := by
  intro hu
  cases hu with
  | refl => exact hne rfl
  | step hp hu =>
    obtain rfl := Option.some.inj (hp.symm.trans (h.entered hb))
    exact absurd (hu.le h) (Nat.not_le.mpr (h.lt_of_child ha))

/-! ## What a group holds -/

/-- Gathers something from the examples and the groups below a group, depth first, down to `n` levels. -/
def gatherTo (f : Forest V) (ex : Example V → List β) (gr : Nat → List β) : Nat → Nat → List β
  | 0, _ => []
  | n + 1, id => (f.entries id).flatMap fun
    | .example e => ex e
    | .group c => gr c ++ f.gatherTo ex gr n c

/-- What is gathered from one entry, down to `n` levels. -/
def gatherEntry (f : Forest V) (ex : Example V → List β) (gr : Nat → List β) (n : Nat) : Entry V → List β
  | .example e => ex e
  | .group c => gr c ++ f.gatherTo ex gr n c

theorem gatherTo_succ (ex : Example V → List β) (gr : Nat → List β) (n id : Nat) :
    f.gatherTo ex gr (n + 1) id = (f.entries id).flatMap (f.gatherEntry ex gr n) := rfl

theorem walkTo_eq (n id : Nat) : f.walkTo n id = f.gatherTo (fun e => [e]) (fun _ => []) n id := by
  induction n generalizing id with
  | zero => rfl
  | succ n ih =>
    unfold walkTo gatherTo
    refine congrArg (List.flatMap · _) (funext fun entry => ?_)
    cases entry with
    | group c => exact ih c
    | «example» e => rfl

/-- The groups below a group, down to `n` levels. -/
def groupsTo (f : Forest V) : Nat → Nat → List Nat := f.gatherTo (fun _ => []) (fun c => [c])

theorem mem_children {g c : Nat} : c ∈ f.children g ↔ .group c ∈ f.entries g := by
  unfold children
  rw [List.mem_filterMap]
  constructor
  · rintro ⟨c' | x, hmem, heq⟩
    · exact Option.some.inj heq ▸ hmem
    · simp at heq
  · exact fun hmem => ⟨.group c, hmem, rfl⟩

theorem entries_of_size_le {id : Nat} (h : f.groups.size ≤ id) : f.entries id = [] := by
  simp [entries, group?, Array.getElem?_eq_none h]

/-- With as many levels as there are groups nothing is missed. -/
theorem gatherTo_stable (h : f.WellFormed) (ex : Example V → List β) (gr : Nat → List β) (n id : Nat)
    (hn : f.groups.size ≤ n + id) : f.gatherTo ex gr (n + 1) id = f.gatherTo ex gr (n + 2) id := by
  induction n generalizing id with
  | zero =>
    rw [Nat.zero_add] at hn
    simp [gatherTo_succ, entries_of_size_le hn]
  | succ n ih =>
    rw [gatherTo_succ, gatherTo_succ]
    refine List.flatMap_congr fun entry hmem => ?_
    cases entry with
    | group c =>
      have hlt := h.lt_of_child (mem_children.mpr hmem)
      exact congrArg (gr c ++ ·) (ih c (by omega))
    | «example» e => rfl

theorem exists_of_mem_groupsTo (h : f.WellFormed) {n g x : Nat} (hx : x ∈ f.groupsTo n g) :
    ∃ c ∈ f.children g, f.Under c x := by
  induction n generalizing g with
  | zero => simp [groupsTo, gatherTo] at hx
  | succ n ih =>
    unfold groupsTo at hx
    rw [gatherTo_succ, List.mem_flatMap] at hx
    obtain ⟨entry, hmem, hx⟩ := hx
    cases entry with
    | group c =>
      refine ⟨c, mem_children.mpr hmem, ?_⟩
      rcases List.mem_append.mp hx with hx | hx
      · exact List.mem_singleton.mp hx ▸ .refl
      · obtain ⟨d, hd, hu⟩ := ih hx
        exact Under.trans (.step (h.entered hd) .refl) hu
    | «example» e => simp [gatherEntry] at hx

/-- No group is found twice below another. -/
theorem groupsTo_nodup (h : f.WellFormed) (n g : Nat) : (f.groupsTo n g).Nodup := by
  induction n generalizing g with
  | zero => exact List.nodup_nil
  | succ n ih =>
    unfold groupsTo
    rw [gatherTo_succ, List.nodup_flatMap]
    constructor
    · rintro (c | e) _
      · refine List.nodup_cons.mpr ⟨fun hc => ?_, ih c⟩
        obtain ⟨d, hd, hu⟩ := exists_of_mem_groupsTo h hc
        have hlt := h.lt_of_child hd
        exact absurd (hu.le h) (by omega)
      · exact List.nodup_nil
    · have honce := h.once g
      unfold children at honce
      have hpair := List.pairwise_filterMap.mp honce
      refine hpair.imp_of_mem fun {x y} hx hy hne => ?_
      rcases x with a | e
      · rcases y with b | e
        · have hab : a ≠ b := hne a rfl b rfl
          have hunder {c i : Nat} (hi : i ∈ f.gatherEntry (fun _ => []) (fun c => [c]) n (.group c)) : f.Under c i := by
            rcases List.mem_cons.mp hi with rfl | hi
            · exact .refl
            · obtain ⟨d, hd, hu⟩ := exists_of_mem_groupsTo h hi
              exact Under.trans (.step (h.entered hd) .refl) hu
          intro i hia hib
          have ha := mem_children.mpr hx
          have hb := mem_children.mpr hy
          rcases (hunder hia).linear (hunder hib) with hu | hu
          · exact h.not_under_of_children ha hb hab hu
          · exact h.not_under_of_children hb ha (Ne.symm hab) hu
        · exact fun i _ hi => by simp [gatherEntry] at hi
      · exact fun i hi => by simp [gatherEntry] at hi

theorem length_groupsTo_le (h : f.WellFormed) (n g : Nat) : (f.groupsTo n g).length ≤ f.groups.size := by
  have hsub : f.groupsTo n g ⊆ List.range f.groups.size := by
    intro x hx
    obtain ⟨c, hc, hu⟩ := exists_of_mem_groupsTo h hx
    rw [List.mem_range]
    have hparent : ∃ p, f.parent? x = some p := by
      cases hu with
      | refl => exact ⟨g, h.entered hc⟩
      | step hp _ => exact ⟨_, hp⟩
    obtain ⟨p, hp⟩ := hparent
    obtain ⟨gr, hgr, -⟩ := Option.bind_eq_some_iff.mp hp
    exact (Array.getElem?_eq_some_iff.mp hgr).1
  have hlen := (List.Nodup.subperm (groupsTo_nodup h n g) hsub).length_le
  rwa [List.length_range] at hlen

/-! ## Searching -/

/-- What is still to be gathered from a place on, each group down to `n` levels. -/
def gatherFrom (f : Forest V) (ex : Example V → List β) (gr : Nat → List β) (n : Nat) (c : Cursor) : List β :=
  c.flatMap fun p => ((f.entries p.1).drop p.2).flatMap (f.gatherEntry ex gr n)

/-- The examples still to come. -/
abbrev examplesFrom (f : Forest V) : Nat → Cursor → List (Example V) := f.gatherFrom (fun e => [e]) (fun _ => [])

/-- The groups still to be entered. -/
abbrev groupsFrom (f : Forest V) : Nat → Cursor → List Nat := f.gatherFrom (fun _ => []) (fun c => [c])

section
variable (ex : Example V → List β) (gr : Nat → List β) (n : Nat) {g i : Nat} {rest : Cursor}

theorem gatherFrom_of_none (hi : (f.entries g)[i]? = none) :
    f.gatherFrom ex gr n ((g, i) :: rest) = f.gatherFrom ex gr n rest := by
  have hdrop : (f.entries g).drop i = [] := List.drop_eq_nil_iff.mpr (List.getElem?_eq_none_iff.mp hi)
  simp [gatherFrom, hdrop]

theorem gatherFrom_of_some {entry : Entry V} (hi : (f.entries g)[i]? = some entry) :
    f.gatherFrom ex gr n ((g, i) :: rest) =
      f.gatherEntry ex gr n entry ++ f.gatherFrom ex gr n ((g, i + 1) :: rest) := by
  obtain ⟨hlt, rfl⟩ := List.getElem?_eq_some_iff.mp hi
  unfold gatherFrom
  rw [List.flatMap_cons, List.flatMap_cons, List.drop_eq_getElem_cons hlt, List.flatMap_cons, List.append_assoc]

theorem gatherFrom_group {c : Nat} (hs : f.gatherTo ex gr n c = f.gatherTo ex gr (n + 1) c) :
    f.gatherEntry ex gr n (.group c) ++ f.gatherFrom ex gr n rest = gr c ++ f.gatherFrom ex gr n ((c, 0) :: rest) := by
  show (gr c ++ f.gatherTo ex gr n c) ++ _ = gr c ++ (((f.entries c).drop 0).flatMap (f.gatherEntry ex gr n) ++ _)
  rw [hs, gatherTo_succ, List.drop_zero, List.append_assoc]
  rfl

end

/-- A search that may look at more entries finds the same. -/
theorem nextFrom_mono {n n' : Nat} {c : Cursor} {r : Example V × Cursor} (h : f.nextFrom n c = some r) (hn : n ≤ n') :
    f.nextFrom n' c = some r := by
  induction n generalizing c n' with
  | zero => simp [nextFrom] at h
  | succ n ih =>
    obtain ⟨k, rfl⟩ : ∃ k, n' = k + 1 := ⟨n' - 1, by omega⟩
    rcases c with _ | ⟨⟨g, i⟩, rest⟩
    · simp [nextFrom] at h
    · unfold nextFrom at h ⊢
      cases hi : (f.entries g)[i]? with
      | none =>
        rw [hi] at h
        exact ih h (by omega)
      | some entry =>
        rw [hi] at h
        cases entry with
        | «example» x => exact h
        | group d => exact ih h (by omega)

/-- A search that may look at enough entries finds the next example, and leaves the others to come. -/
theorem nextFrom_spec (h : f.WellFormed) {m : Nat} (hm : f.groups.size < m) (n : Nat) (c : Cursor)
    (hn : 2 * (f.groupsFrom m c).length + c.length < n) :
    match f.examplesFrom m c with
    | [] => f.nextFrom n c = none
    | x :: xs => ∃ c', f.nextFrom n c = some (x, c') ∧ f.examplesFrom m c' = xs ∧
        (f.groupsFrom m c').length ≤ (f.groupsFrom m c).length := by
  have hstable {γ : Type} (ex : Example V → List γ) (gr : Nat → List γ) (c : Nat) :
      f.gatherTo ex gr m c = f.gatherTo ex gr (m + 1) c := by
    obtain ⟨k, rfl⟩ : ∃ k, m = k + 1 := ⟨m - 1, by omega⟩
    exact gatherTo_stable h ex gr k c (by omega)
  unfold examplesFrom groupsFrom at *
  induction n generalizing c with
  | zero => omega
  | succ n ih =>
    rcases c with _ | ⟨⟨g, i⟩, rest⟩
    · rfl
    · rw [List.length_cons] at hn
      cases hi : (f.entries g)[i]? with
      | none =>
        have hnext : f.nextFrom (n + 1) ((g, i) :: rest) = f.nextFrom n rest := by rw [nextFrom, hi]
        rw [gatherFrom_of_none _ _ _ hi] at hn
        rw [hnext, gatherFrom_of_none _ _ _ hi, gatherFrom_of_none _ _ _ hi]
        exact ih rest (by omega)
      | some entry =>
        cases entry with
        | «example» x =>
          have hnext : f.nextFrom (n + 1) ((g, i) :: rest) = some (x, (g, i + 1) :: rest) := by rw [nextFrom, hi]
          rw [gatherFrom_of_some _ _ _ hi, gatherFrom_of_some _ _ _ hi]
          exact ⟨_, hnext, rfl, Nat.le_refl _⟩
        | group c =>
          have hnext : f.nextFrom (n + 1) ((g, i) :: rest) = f.nextFrom n ((c, 0) :: (g, i + 1) :: rest) := by
            rw [nextFrom, hi]
          rw [gatherFrom_of_some _ _ _ hi, gatherFrom_group _ _ _ (hstable _ _ c), List.length_append,
            List.length_singleton] at hn
          have hrec := ih ((c, 0) :: (g, i + 1) :: rest) (by simp only [List.length_cons]; omega)
          rw [hnext, gatherFrom_of_some _ _ _ hi, gatherFrom_group _ _ _ (hstable _ _ c),
            gatherFrom_of_some _ _ _ hi, gatherFrom_group _ _ _ (hstable _ _ c)]
          rw [List.nil_append]
          split at hrec
          · exact hrec
          · obtain ⟨c', hc', hex, hlen⟩ := hrec
            exact ⟨c', hc', hex, by rw [List.length_append]; omega⟩

/-! ## Closed trees -/

/-- The group and the groups that can be reached from it by going down. -/
inductive Below (f : Forest V) (root : Nat) : Nat → Prop
  | root : Below f root root
  | child {g c : Nat} (h : Below f root g) (hc : c ∈ f.children g) : Below f root c

/-- The group is there and is closed, and so is every group below it. -/
def ClosedBelow (f : Forest V) (root : Nat) : Prop :=
  ∀ g, f.Below root g → ∃ gr, f.group? g = some gr ∧ gr.isSealed = true

/-- The searches from a place on find the examples one after the other and then nothing more, whatever has been
declared by the time. -/
inductive Yields (f : Forest V) : Cursor → List (Example V) → Prop
  | nil {c : Cursor} : (∀ f', f.Grows f' → f'.next? c = none) → Yields f c []
  | cons {c c' : Cursor} {x : Example V} {xs : List (Example V)} :
    (∀ f', f.Grows f' → f'.next? c = some (x, c')) → Yields f c' xs → Yields f c (x :: xs)

theorem ClosedBelow.entries_eq {root : Nat} (hc : f.ClosedBelow root) (hg : f.Grows f') {g : Nat}
    (hb : f.Below root g) : f'.entries g = f.entries g := by
  obtain ⟨gr, hgr, hs⟩ := hc g hb
  unfold entries
  rw [hg.group?_eq hgr hs, hgr]

/-- A search in a closed tree goes as it always did, and stays in the tree. -/
theorem ClosedBelow.nextFrom_eq {root : Nat} (hc : f.ClosedBelow root) (hg : f.Grows f') (n : Nat) (c : Cursor)
    (hb : ∀ p ∈ c, f.Below root p.1) :
    f'.nextFrom n c = f.nextFrom n c ∧ ∀ x c', f.nextFrom n c = some (x, c') → ∀ p ∈ c', f.Below root p.1 := by
  induction n generalizing c with
  | zero => exact ⟨rfl, fun x c' hx => by simp [nextFrom] at hx⟩
  | succ n ih =>
    rcases c with _ | ⟨⟨g, i⟩, rest⟩
    · exact ⟨rfl, fun x c' hx => by simp [nextFrom] at hx⟩
    · have hbg := hb (g, i) (List.mem_cons_self ..)
      have hbr (p : Nat × Nat) (hp : p ∈ rest) : f.Below root p.1 := hb p (List.mem_cons_of_mem _ hp)
      have hbi (p : Nat × Nat) (hp : p ∈ (g, i + 1) :: rest) : f.Below root p.1 := by
        rcases List.mem_cons.mp hp with rfl | hp
        · exact hbg
        · exact hbr p hp
      unfold nextFrom
      rw [hc.entries_eq hg hbg]
      cases hi : (f.entries g)[i]? with
      | none => exact ih rest hbr
      | some entry =>
        cases entry with
        | «example» x =>
          refine ⟨rfl, fun y c' hy => ?_⟩
          simp only [Option.some.injEq, Prod.mk.injEq] at hy
          exact hy.2 ▸ hbi
        | group d =>
          refine ih _ fun p hp => ?_
          rcases List.mem_cons.mp hp with rfl | hp
          · exact hbg.child (mem_children.mpr (List.mem_of_getElem? hi))
          · exact hbi p hp

/-- From a place in a closed tree on, the searches find what is still to come from there. -/
theorem yields_examplesFrom (h : f.WellFormed) {root : Nat} (hc : f.ClosedBelow root) (xs : List (Example V))
    (c : Cursor) (hb : ∀ p ∈ c, f.Below root p.1) (hx : f.examplesFrom (f.groups.size + 1) c = xs)
    (hl : (f.groupsFrom (f.groups.size + 1) c).length ≤ f.groups.size) : f.Yields c xs := by
  have hnext (f' : Forest V) (hg : f.Grows f') (c : Cursor) (hb : ∀ p ∈ c, f.Below root p.1) :
      f'.next? c = f.nextFrom (2 * f'.groups.size + c.length + 1) c := (hc.nextFrom_eq hg _ c hb).1
  induction xs generalizing c with
  | nil =>
    refine .nil fun f' hg => ?_
    have hsize := hg.size
    have hspec := nextFrom_spec h (Nat.lt_succ_self _) (2 * f'.groups.size + c.length + 1) c
      (by rw [Nat.succ_eq_add_one]; omega)
    rw [Nat.succ_eq_add_one, hx] at hspec
    exact (hnext f' hg c hb).trans hspec
  | cons x xs ih =>
    have hspec := nextFrom_spec h (Nat.lt_succ_self _) (2 * f.groups.size + c.length + 1) c
      (by rw [Nat.succ_eq_add_one]; omega)
    rw [Nat.succ_eq_add_one, hx] at hspec
    obtain ⟨c', hc', hex, hlen⟩ := hspec
    refine .cons (fun f' hg => ?_) (ih c' ((hc.nextFrom_eq (.refl f) _ c hb).2 x c' hc') hex (hlen.trans hl))
    have hsize := hg.size
    exact (hnext f' hg c hb).trans (nextFrom_mono hc' (by omega))

/-- Looking for one example after the other in a closed tree comes to the same as listing them. -/
theorem yields_walk (h : f.WellFormed) {root : Nat} (hc : f.ClosedBelow root) : f.Yields [(root, 0)] (f.walk root) := by
  have hstable {γ : Type} (ex : Example V → List γ) (gr : Nat → List γ) :
      f.gatherFrom ex gr (f.groups.size + 1) [(root, 0)] = f.gatherTo ex gr (f.groups.size + 1) root := by
    rw [gatherTo_stable h ex gr f.groups.size root (by omega), gatherTo_succ]
    exact List.append_nil _
  refine yields_examplesFrom h hc _ _ (fun p hp => List.mem_singleton.mp hp ▸ .root) ?_ ?_
  · exact (hstable _ _).trans (walkTo_eq _ _).symm
  · exact (congrArg List.length (hstable _ _)).trans_le (length_groupsTo_le h _ root)

end Forest
end Exemplar

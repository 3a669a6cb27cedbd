import Exemplar.Proofs.Walk

/-!
# Exemplar.Proofs.Ancestry — the way from the root down to a group

In a well-formed forest the way down to a nested group is the way down to its parent and one group more. So the groups
on the way are those above the group, their numbers grow, and their depths are 0, 1, 2 and so on. Declarations do not
change the way down to a group that is there.

* `ancestors_of_parent?`, `mem_ancestors_iff`: what the way is made of.
* `map_depth_ancestors`: how deep the groups on the way are.
* `Grows.ancestors_of_lt`: what declarations leave alone.
-/

namespace Exemplar
namespace Forest

variable {V : Type} {f f' : Forest V} {a g p : Nat}

/-! ## What the way is made of -/

theorem ancestors_of_parent?_none (h : f.parent? g = none) : f.ancestors g = [g] := by
  rw [ancestors, path, h]

/-- The way down begins at the root. -/
theorem ancestors_eq_cons (f : Forest V) (g : Nat) : ∃ as, f.ancestors g = f.root g :: as := by
  have hne : f.ancestors g ≠ [] := List.ne_nil_of_mem (f.root_mem_ancestors g)
  obtain ⟨r, as, has⟩ := List.exists_cons_of_ne_nil hne
  exact ⟨as, by rw [root, has]; rfl⟩

theorem under_of_mem_path : ∀ (n id : Nat), a ∈ f.path n id → f.Under a id
  | 0, _, h => by simp [path] at h
  | n + 1, id, h => by
    unfold path at h
    split at h
    · next p hp =>
      rcases List.mem_append.mp h with h | h
      · exact .step hp (under_of_mem_path n p h)
      · exact List.mem_singleton.mp h ▸ .refl
    · exact List.mem_singleton.mp h ▸ .refl

theorem under_of_mem_ancestors (h : a ∈ f.ancestors g) : f.Under a g := under_of_mem_path _ _ h

/-- Nothing on the way down stands above a root. -/
theorem Under.of_mem_ancestors {r x : Nat} (hg : f.Under r g) (hr : f.parent? r = none) (hx : x ∈ f.ancestors g) :
    f.Under r x := by
  rcases hg.linear (under_of_mem_ancestors hx) with hu | hu
  · exact hu
  · cases hu with
    | refl => exact .refl
    | step hp _ => simp [hr] at hp

section
variable (h : f.WellFormed)
include h

/-- Any limit that is large enough gives the whole way. -/
theorem WellFormed.path_eq {n : Nat} (hn : g < n) : f.path n g = f.ancestors g := by
  induction n using Nat.strong_induction_on generalizing g with
  | _ n ih =>
    obtain ⟨n, rfl⟩ : ∃ k, n = k + 1 := ⟨n - 1, by omega⟩
    unfold ancestors path
    cases hp : f.parent? g with
    | none => rfl
    | some p =>
      have hlt := h.descends hp
      rcases Nat.lt_or_eq_of_le (Nat.le_of_lt_succ hn) with hg | rfl
      · show f.path n p ++ [g] = f.path g p ++ [g]
        rw [ih n (by omega) (by omega), ih g (by omega) hlt]
      · rfl

theorem WellFormed.ancestors_of_parent? (hp : f.parent? g = some p) : f.ancestors g = f.ancestors p ++ [g] := by
  conv_lhs => rw [ancestors, path, hp]
  show f.path g p ++ [g] = _
  rw [h.path_eq (h.descends hp)]

theorem WellFormed.mem_ancestors_iff : a ∈ f.ancestors g ↔ f.Under a g := by
  refine ⟨under_of_mem_ancestors, fun hu => ?_⟩
  induction hu with
  | refl =>
    unfold ancestors path
    split <;> simp
  | step hp _ ih => exact h.ancestors_of_parent? hp ▸ List.mem_append_left _ ih

/-- A way down that passes a group without a parent begins there. -/
theorem WellFormed.head?_ancestors (ha : f.parent? a = none) (hu : f.Under a g) : (f.ancestors g).head? = some a := by
  induction hu with
  | refl => rw [ancestors_of_parent?_none ha]; rfl
  | step hp _ ih =>
    rw [h.ancestors_of_parent? hp, List.head?_append, ih]
    rfl

theorem WellFormed.root_eq (ha : f.parent? a = none) (hu : f.Under a g) : f.root g = a := by
  rw [root, h.head?_ancestors ha hu]
  rfl

theorem WellFormed.root_of_parent? (hp : f.parent? g = some p) : f.root g = f.root p := by
  obtain ⟨as, has⟩ := f.ancestors_eq_cons p
  rw [root, h.ancestors_of_parent? hp, has]
  rfl

/-- Nothing stands above a root. -/
theorem WellFormed.ancestors_root (g : Nat) : f.ancestors (f.root g) = [f.root g] := by
  induction g using Nat.strong_induction_on with
  | _ g ih =>
    cases hp : f.parent? g with
    | none =>
      have hone := ancestors_of_parent?_none hp
      rw [root, hone]
      exact hone
    | some p => exact h.root_of_parent? hp ▸ ih p (h.descends hp)

theorem WellFormed.lt_of_mem_ancestors (hg : g < f.groups.size) (ha : a ∈ f.ancestors g) : a < f.groups.size :=
  ((under_of_mem_ancestors ha).le h).trans_lt hg

/-! ## Depths -/

theorem WellFormed.map_depth_ancestors (g : Nat) :
    (f.ancestors g).map f.depth = List.range (f.ancestors g).length := by
  induction g using Nat.strong_induction_on with
  | _ g ih =>
    cases hp : f.parent? g with
    | none =>
      have hone := ancestors_of_parent?_none hp
      simp [hone, depth]
    | some p =>
      have hcons := h.ancestors_of_parent? hp
      have hdepth : f.depth g = (f.ancestors p).length := by simp [depth, hcons]
      rw [hcons, List.map_append, ih p (h.descends hp), List.length_append, List.map_singleton, hdepth]
      exact List.range_succ.symm

/-- On the way down each group is deeper than the ones before. -/
theorem WellFormed.pairwise_depth (g : Nat) : (f.ancestors g).Pairwise fun a b => f.depth a < f.depth b := by
  rw [← List.pairwise_map, h.map_depth_ancestors]
  exact List.pairwise_lt_range

end

/-! ## Growing forests -/

namespace Grows

variable (hg : f.Grows f') (h : f.WellFormed) (hlt : g < f.groups.size)
include hg h hlt

theorem ancestors_of_lt : f'.ancestors g = f.ancestors g := by
  refine hg.ancestors_eq ?_
  have hroot := h.lt_of_mem_ancestors hlt (f.root_mem_ancestors g)
  exact Option.isSome_iff_exists.mpr ⟨_, Array.getElem?_eq_getElem hroot⟩

theorem depth_of_lt : f'.depth g = f.depth g := by rw [depth, depth, hg.ancestors_of_lt h hlt]

theorem root_of_lt : f'.root g = f.root g := by rw [root, root, hg.ancestors_of_lt h hlt]

end Grows
end Forest
end Exemplar

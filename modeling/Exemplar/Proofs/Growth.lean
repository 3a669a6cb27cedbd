import Exemplar.Engine
import Mathlib.Data.List.Infix

/-!
# Exemplar.Proofs.Growth — how a forest grows

Declarations only ever add to a forest: a group keeps its place below its parent, its target and its entries, a name
that has a definition goes on having one, and a closed group stays as it is. A forest that has come about by
declarations is a forest indeed: each nested group is entered in the group that is its parent, and only once.

* `Declares.grows`, `Declares.wellFormed`: what one declaration keeps.
* `Grows.defines`: what has a definition goes on having one.
* `Grows.defines_of_closedAbove`: below closed groups nothing else gets one.
* `defines_iff`: a name has a definition exactly when it is among the names of the chain.
-/

namespace Exemplar

variable {V : Type}

/-! ## Names -/

/-- The place in a table for which a name stands. -/
def HelperName.slot (n : HelperName V) : Option String × Option String := (n.text?, n.key?)

theorem HelperName.same_iff {n m : HelperName V} : n.same m = true ↔ n.slot = m.slot := by
  simp [same, slot]

theorem HelperName.same_text_eq (x y : String) :
    (HelperName.text x : HelperName V).same (.text y) = decide (x = y) := by
  rw [Bool.eq_iff_iff, same_text, decide_eq_true_iff]

namespace HelperTable

theorem find?_isSome_iff {table : HelperTable V} {name : HelperName V} :
    (table.find? name).isSome = true ↔ name.slot ∈ table.names.map HelperName.slot := by
  simp [find?, names, List.find?_isSome, HelperName.same_iff]

/-- A table that takes in a definition keeps all its names. -/
theorem names_put_prefix (d : Definition V) (table : HelperTable V) : table.names <+: (table.put d).names := by
  rcases names_put d table with h | h <;> rw [h]
  exact List.prefix_append _ _

end HelperTable

/-! ## Growth -/

/-- The group has stayed where it was, with all that was declared in it; if it was closed, just as it was. -/
structure Group.Grows (g g' : Group V) : Prop where
  description : g'.description = g.description
  parent : g'.parent = g.parent
  target : g'.target = g.target
  isSealed : g.isSealed = true → g' = g
  entries : g.entries <+: g'.entries
  names : g.helpers.names <+: g'.helpers.names

namespace Group.Grows

theorem refl (g : Group V) : g.Grows g := ⟨rfl, rfl, rfl, fun _ => rfl, List.prefix_rfl, List.prefix_rfl⟩

theorem trans {g g' g'' : Group V} (h : g.Grows g') (h' : g'.Grows g'') : g.Grows g'' where
  description := h'.description.trans h.description
  parent := h'.parent.trans h.parent
  target := h'.target.trans h.target
  isSealed hs := by
    obtain rfl := h.isSealed hs
    exact h'.isSealed hs
  entries := h.entries.trans h'.entries
  names := h.names.trans h'.names

end Group.Grows

namespace Forest

/-- There are all the groups there were, each grown. -/
def Grows (f f' : Forest V) : Prop := ∀ id g, f.group? id = some g → ∃ g', f'.group? id = some g' ∧ g.Grows g'

/-- What one declaration does to a forest; all but closing need an open group. -/
inductive Declares (f : Forest V) : Forest V → Prop
  | child (g : Nat) (description : V) (ho : f.isSealed g = false) : Declares f (f.addChild g description)
  | example (x : Example V) (ho : f.isSealed x.group = false) (hp : x.place = (f.entries x.group).length) :
    Declares f (f.addEntry x.group (.example x))
  | define (g : Nat) (d : Definition V) (ho : f.isSealed g = false) : Declares f (f.define g d)
  | close (g : Nat) : Declares f (f.closeGroup g)

namespace Grows

variable {f f' f'' : Forest V}

theorem refl (f : Forest V) : f.Grows f := fun _ g hg => ⟨g, hg, .refl g⟩

theorem trans (h : f.Grows f') (h' : f'.Grows f'') : f.Grows f'' := by
  intro id g hg
  obtain ⟨g', hg', hgg⟩ := h id g hg
  obtain ⟨g'', hg'', hgg'⟩ := h' id g' hg'
  exact ⟨g'', hg'', hgg.trans hgg'⟩

theorem update {id : Nat} {change : Group V → Group V} (h : ∀ g, f.group? id = some g → g.Grows (change g)) :
    f.Grows (f.update id change) := by
  intro i g hg
  rw [group?_update, hg]
  split
  · next hi => exact ⟨change g, rfl, h g (hi ▸ hg)⟩
  · exact ⟨g, rfl, .refl g⟩

theorem addGroup (g : Group V) : f.Grows (f.addGroup g) := by
  intro i g' hg'
  rw [group?_addGroup]
  split
  · next hi => simp [group?, hi] at hg'
  · exact ⟨g', hg', .refl g'⟩

/-- Once a group is closed, nothing about it changes. -/
theorem group?_eq (h : f.Grows f') {id : Nat} {g : Group V} (hg : f.group? id = some g) (hs : g.isSealed = true) :
    f'.group? id = some g := by
  obtain ⟨g', hg', hgg⟩ := h id g hg
  rw [hg', hgg.isSealed hs]

theorem parent? (h : f.Grows f') {id : Nat} {g : Group V} (hg : f.group? id = some g) :
    f'.parent? id = f.parent? id := by
  obtain ⟨g', hg', hgg⟩ := h id g hg
  simp [Forest.parent?, hg, hg', hgg.parent]

theorem size (h : f.Grows f') : f.groups.size ≤ f'.groups.size := by
  by_contra hlt
  obtain ⟨g', hg', -⟩ := h f'.groups.size f.groups[f'.groups.size] (by simp [group?])
  simp [group?] at hg'

end Grows

/-- An open group is there. -/
theorem exists_of_isSealed {f : Forest V} {id : Nat} (h : f.isSealed id = false) :
    ∃ g, f.group? id = some g ∧ g.isSealed = false := by
  unfold isSealed at h
  cases hg : f.group? id with
  | none => simp [hg] at h
  | some g => exact ⟨g, rfl, by simpa [hg] using h⟩

theorem Declares.grows {f f' : Forest V} (h : f.Declares f') : f.Grows f' := by
  have hopen {id : Nat} {change : Group V → Group V} (ho : f.isSealed id = false)
      (hc : ∀ g : Group V, g.isSealed = false → g.Grows (change g)) : f.Grows (f.update id change) := by
    refine .update fun g hg => hc g ?_
    obtain ⟨g', hg', hs⟩ := exists_of_isSealed ho
    rw [hg] at hg'
    exact (Option.some.inj hg') ▸ hs
  cases h with
  | child id description ho =>
    refine (Grows.addGroup _).trans (.update fun g hg => ?_)
    obtain ⟨g', hg', hs⟩ := exists_of_isSealed ho
    obtain ⟨g'', hg'', hgg⟩ := Grows.addGroup (.fresh description (some id) none) id g' hg'
    rw [group?_addGroup] at hg hg''
    split at hg
    · next hi => simp [group?, hi] at hg'
    · rw [hg'] at hg
      obtain rfl := Option.some.inj hg
      exact ⟨rfl, rfl, rfl, fun h => by simp [hs] at h, List.prefix_append _ _, List.prefix_rfl⟩
  | «example» x ho hp =>
    exact hopen ho fun g hs => ⟨rfl, rfl, rfl, fun h => by simp [hs] at h, List.prefix_append _ _, List.prefix_rfl⟩
  | define id d ho =>
    exact hopen ho fun g hs =>
      ⟨rfl, rfl, rfl, fun h => by simp [hs] at h, List.prefix_rfl, HelperTable.names_put_prefix d _⟩
  | close id =>
    refine .update fun g hg => ⟨rfl, rfl, rfl, fun h => ?_, List.prefix_rfl, List.prefix_rfl⟩
    obtain ⟨d, p, t, b, es, hs⟩ := g
    obtain rfl : b = true := h
    rfl

/-! ## What has a definition -/

/-- There is something to compute the name from, for an example of the group. -/
def Defines (f : Forest V) (group : Nat) (name : HelperName V) : Prop :=
  f.declaredChain group name ≠ [] ∨ name.same .subject = true ∧ (f.target? group).isSome = true

/-- The names that have a definition for the examples of a group: those in the tables of the group and of the groups
above it, and the subject of a target. -/
def namesFor (f : Forest V) (group : Nat) : List (HelperName V) :=
  (f.ancestors group).flatMap (fun a => (f.helpers a).names) ++ if (f.target? group).isSome then [.subject] else []

theorem defines_iff {f : Forest V} {group : Nat} {name : HelperName V} :
    f.Defines group name ↔ name.slot ∈ (f.namesFor group).map HelperName.slot := by
  have hchain : f.declaredChain group name ≠ [] ↔
      ∃ a ∈ f.ancestors group, name.slot ∈ (f.helpers a).names.map HelperName.slot := by
    unfold declaredChain
    rw [ne_eq, List.filterMap_eq_nil_iff]
    push Not
    simp only [← HelperTable.find?_isSome_iff, Option.isSome_iff_ne_none]
  rw [Defines, hchain, namesFor, List.map_append, List.mem_append, List.map_flatMap, List.mem_flatMap,
    HelperName.same_iff]
  cases (f.target? group).isSome <;> simp

/-- The group and all groups above it are there, and closed. -/
def ClosedAbove (f : Forest V) (group : Nat) : Prop :=
  ∀ a ∈ f.ancestors group, ∃ g, f.group? a = some g ∧ g.isSealed = true

theorem root_mem_ancestors (f : Forest V) (id : Nat) : f.root id ∈ f.ancestors id := by
  have hne : f.ancestors id ≠ [] := by
    unfold ancestors path
    split <;> simp
  unfold root
  rw [List.head?_eq_some_head hne]
  exact List.head_mem hne

namespace Grows

variable {f f' : Forest V}

theorem mem_path (h : f.Grows f') {a : Nat} : ∀ (n id : Nat), a ∈ f.path n id → a ∈ f'.path n id
  | 0, _, ha => by simp [path] at ha
  | n + 1, id, ha => by
    have hlast : id ∈ f'.path (n + 1) id := by
      unfold path
      split <;> simp
    unfold path at ha
    split at ha
    · next p hp =>
      rcases List.mem_append.mp ha with ha | ha
      · obtain ⟨g, hg, -⟩ := Option.bind_eq_some_iff.mp hp
        have hp' : f'.parent? id = some p := (h.parent? hg).trans hp
        unfold path
        rw [hp']
        exact List.mem_append_left _ (mem_path h n p ha)
      · exact List.mem_singleton.mp ha ▸ hlast
    · exact List.mem_singleton.mp ha ▸ hlast

/-- A way up to a group that is there stays the same. -/
theorem path_eq (h : f.Grows f') : ∀ (n id : Nat), (∀ r, (f.path n id).head? = some r → (f.group? r).isSome = true) →
    f'.path n id = f.path n id
  | 0, _, _ => rfl
  | n + 1, id, hr => by
    unfold path at hr ⊢
    cases hp : f.parent? id with
    | some p =>
      obtain ⟨g, hg, -⟩ := Option.bind_eq_some_iff.mp hp
      rw [h.parent? hg, hp]
      rw [hp] at hr
      refine congrArg (· ++ [id]) (path_eq h n p fun r hhead => hr r ?_)
      show (f.path n p ++ [id]).head? = some r
      rw [List.head?_append, hhead]
      rfl
    | none =>
      rw [hp] at hr
      obtain ⟨g, hg⟩ := Option.isSome_iff_exists.mp (hr id rfl)
      rw [h.parent? hg, hp]

/-- The way up stays the same if there is a root at its end. -/
theorem ancestors_eq (h : f.Grows f') {id : Nat} (hr : (f.group? (f.root id)).isSome = true) :
    f'.ancestors id = f.ancestors id := by
  refine h.path_eq _ _ fun r hhead => ?_
  have hroot : f.root id = r := by
    unfold root ancestors
    rw [hhead]
    rfl
  exact hroot ▸ hr

theorem root_eq (h : f.Grows f') {id : Nat} (hr : (f.group? (f.root id)).isSome = true) : f'.root id = f.root id := by
  unfold root
  rw [h.ancestors_eq hr]

theorem target?_eq (h : f.Grows f') {id : Nat} {v : V} (ht : f.target? id = some v) : f'.target? id = some v := by
  obtain ⟨g, hg, hv⟩ := Option.bind_eq_some_iff.mp ht
  obtain ⟨g', hg', hgg⟩ := h _ _ hg
  unfold target?
  rw [h.root_eq (hg ▸ rfl), hg']
  exact hgg.target.trans hv

theorem names_prefix (h : f.Grows f') (id : Nat) : (f.helpers id).names <+: (f'.helpers id).names := by
  cases hg : f.group? id with
  | none =>
    unfold helpers
    rw [hg]
    exact List.nil_prefix
  | some g =>
    obtain ⟨g', hg', hgg⟩ := h id g hg
    unfold helpers
    rw [hg, hg']
    exact hgg.names

/-- What has a definition goes on having one. -/
theorem defines (h : f.Grows f') {group : Nat} {name : HelperName V} (hd : f.Defines group name) :
    f'.Defines group name := by
  rw [defines_iff, namesFor, List.map_append, List.mem_append] at hd ⊢
  rcases hd with hd | hd
  · left
    obtain ⟨n, hn, hslot⟩ := List.mem_map.mp hd
    obtain ⟨a, ha, hna⟩ := List.mem_flatMap.mp hn
    refine hslot ▸ List.mem_map_of_mem (List.mem_flatMap.mpr ⟨a, h.mem_path _ _ ha, ?_⟩)
    exact (h.names_prefix a).subset hna
  · right
    cases ht : f.target? group with
    | none => simp [ht] at hd
    | some v =>
      rw [ht] at hd
      rw [h.target?_eq ht]
      exact hd

/-- Where the whole way up is closed, a name without definitions gets none. -/
theorem defines_of_closedAbove (h : f.Grows f') {group : Nat} (hc : f.ClosedAbove group) {name : HelperName V}
    (hd : f'.Defines group name) : f.Defines group name := by
  obtain ⟨r, hr, -⟩ := hc _ (f.root_mem_ancestors group)
  have hroot : (f.group? (f.root group)).isSome = true := by rw [hr]; rfl
  have hsame {a : Nat} (ha : a ∈ f.ancestors group) : f'.group? a = f.group? a := by
    obtain ⟨g, hg, hs⟩ := hc a ha
    rw [h.group?_eq hg hs, hg]
  have hchain : f'.declaredChain group name = f.declaredChain group name := by
    unfold declaredChain helpers
    rw [h.ancestors_eq hroot]
    exact List.filterMap_congr fun a ha => by rw [hsame ha]
  have htarget : f'.target? group = f.target? group := by
    unfold target?
    rw [h.root_eq hroot, hsame (f.root_mem_ancestors group)]
  unfold Defines at hd ⊢
  rwa [hchain, htarget] at hd

end Grows

/-! ## Well-formed forests -/

/-- The groups entered in a group, in order. -/
def children (f : Forest V) (id : Nat) : List Nat :=
  (f.entries id).filterMap fun
    | .group c => some c
    | .example _ => none

/-- Each nested group is entered in its parent, once, and has a larger number. -/
structure WellFormed (f : Forest V) : Prop where
  descends {c p : Nat} : f.parent? c = some p → p < c
  entered {g c : Nat} : c ∈ f.children g → f.parent? c = some g
  once (g : Nat) : (f.children g).Nodup

namespace WellFormed

variable {f f' : Forest V}

theorem lt_of_child (h : f.WellFormed) {g c : Nat} (hc : c ∈ f.children g) : g < c := h.descends (h.entered hc)

theorem empty : (Forest.empty : Forest V).WellFormed :=
  ⟨by simp [Forest.parent?, group?, Forest.empty], by simp [children, entries, group?, Forest.empty],
    by simp [children, entries, group?, Forest.empty]⟩

/-- Nothing else of a forest matters for this. -/
theorem congr (h : f.WellFormed) (hp : ∀ c, f'.parent? c = f.parent? c) (hc : ∀ g, f'.children g = f.children g) :
    f'.WellFormed where
  descends hcp := h.descends (hp _ ▸ hcp)
  entered hg := hp _ ▸ h.entered (hc _ ▸ hg)
  once g := hc g ▸ h.once g

theorem update (h : f.WellFormed) {id : Nat} {change : Group V → Group V} (hp : ∀ g, (change g).parent = g.parent)
    (hc : ∀ g, ∃ es, (change g).entries = g.entries ++ es ∧ ∀ c, .group c ∉ es) : (f.update id change).WellFormed := by
  refine h.congr (fun c => ?_) fun i => ?_
  · unfold parent?
    rw [group?_update]
    split
    · cases f.group? c with
      | none => rfl
      | some g => exact hp g
    · rfl
  · unfold children entries
    rw [group?_update]
    split
    · cases f.group? i with
      | none => rfl
      | some g =>
        obtain ⟨es, he, hes⟩ := hc g
        show List.filterMap _ (change g).entries = List.filterMap _ g.entries
        have hnone : es.filterMap (fun | .group c => some c | .example _ => none) = ([] : List Nat) := by
          rw [List.filterMap_eq_nil_iff]
          rintro (c | x) hmem
          · exact absurd hmem (hes c)
          · rfl
        rw [he, List.filterMap_append, hnone, List.append_nil]
    · rfl

theorem addRoot (h : f.WellFormed) (description : V) (target : Option V) :
    (f.addGroup (.fresh description none target)).WellFormed := by
  refine h.congr (fun c => ?_) fun g => ?_
  · unfold parent?
    rw [group?_addGroup]
    split
    · next hc =>
      subst hc
      simp [group?, Group.fresh]
    · rfl
  · unfold children entries
    rw [group?_addGroup]
    split
    · next hg =>
      subst hg
      simp [group?, Group.fresh]
    · rfl

theorem addChild (h : f.WellFormed) {id : Nat} (hid : id < f.groups.size) (description : V) :
    (f.addChild id description).WellFormed := by
  have hparent (c : Nat) : (f.addChild id description).parent? c =
      if c = f.groups.size then some id else f.parent? c := by
    unfold Forest.addChild addEntry parent?
    rw [group?_update, group?_addGroup]
    by_cases hc : c = f.groups.size
    · simp [hc, Nat.ne_of_lt hid, Group.fresh]
    · rw [if_neg hc, if_neg hc]
      split
      · cases f.group? c <;> rfl
      · rfl
  have hchildren (g : Nat) : (f.addChild id description).children g =
      if g = id then f.children g ++ [f.groups.size] else f.children g := by
    unfold Forest.addChild addEntry children entries
    rw [group?_update, group?_addGroup]
    by_cases hg : g = f.groups.size
    · have hne : id ≠ g := by omega
      simp [hg, Nat.ne_of_lt hid, (Nat.ne_of_lt hid).symm, Group.fresh, group?]
    · rw [if_neg hg]
      by_cases hi : g = id
      · subst hi
        obtain ⟨g', hg'⟩ : ∃ g', f.group? g = some g' := ⟨f.groups[g], by simp [group?, hid]⟩
        simp [hg']
      · rw [if_neg (Ne.symm hi), if_neg hi]
  have hnew (g : Nat) : f.groups.size ∉ f.children g := by
    intro hmem
    have hp := h.entered hmem
    simp [parent?, group?] at hp
  constructor
  · intro c p hp
    rw [hparent] at hp
    split at hp
    · obtain rfl := Option.some.inj hp
      omega
    · exact h.descends hp
  · intro g c hc
    rw [hchildren] at hc
    rw [hparent]
    split at hc
    · next hg =>
      rcases List.mem_append.mp hc with hc | hc
      · rw [if_neg (fun he : c = f.groups.size => hnew g (he ▸ hc))]
        exact h.entered hc
      · rw [if_pos (List.mem_singleton.mp hc), hg]
    · rw [if_neg (fun he : c = f.groups.size => hnew g (he ▸ hc))]
      exact h.entered hc
  · intro g
    rw [hchildren]
    split
    · refine List.nodup_append.mpr ⟨h.once g, by simp, fun a ha b hb he => ?_⟩
      exact hnew g (List.mem_singleton.mp hb ▸ he ▸ ha)
    · exact h.once g

/-- A declaration keeps a forest well-formed. -/
theorem declares (h : f.WellFormed) (hd : f.Declares f') : f'.WellFormed := by
  cases hd with
  | child g description ho =>
    obtain ⟨g', hg', -⟩ := exists_of_isSealed ho
    exact h.addChild (Array.getElem?_eq_some_iff.mp hg').1 description
  | «example» x ho hp => exact h.update (fun _ => rfl) fun g => ⟨[.example x], rfl, by simp⟩
  | define g d ho => exact h.update (fun _ => rfl) fun g => ⟨[], (List.append_nil _).symm, by simp⟩
  | close g => exact h.update (fun _ => rfl) fun g => ⟨[], (List.append_nil _).symm, by simp⟩

end WellFormed
end Forest
end Exemplar

import Exemplar.Proofs.Growth
import Exemplar.Surface

/-!
# Exemplar.Proofs.History — forests and the changes they come from

A history is a list of changes in the order in which they were made. It is sound for a forest if each change was
admissible when it was made: declarations need an open group, and new groups get the next number. What a group holds
afterwards can be read off the history: its entries and definitions are the ones declared in it, in order, and it is
open until something closes it.

* `Forest.after`: the forest that a history leads to.
* `entries_after`, `find?_helpers_after`, `size_after`: what the groups have come to hold, and how many they are.
* `blocks`: the groups whose blocks are running at the end of a history; blocks end in the reverse order of their
  beginning.
-/

namespace Exemplar

/-- Names that are the same find the same. -/
theorem HelperTable.find?_congr {V : Type} {n m : HelperName V} (h : n.same m = true) (table : HelperTable V) :
    table.find? n = table.find? m := by
  have hsame (k : HelperName V) : k.same n = k.same m := by
    rw [Bool.eq_iff_iff, HelperName.same_iff, HelperName.same_iff, HelperName.same_iff.mp h]
  unfold find?
  simp only [hsame]

/-! ## Changes -/

/-- A change of a forest. The block of a group may end, or the group may be closed by itself. -/
inductive Change (V : Type) where
  | root (id : Nat) (description : V) (target : Option V)
  | child (id parent : Nat) (description : V)
  | example (x : Example V)
  | define (group : Nat) (d : Definition V)
  | ended (group : Nat)
  | closed (group : Nat)

namespace Change

variable {V : Type}

/-- The group that comes into being. -/
def created? : Change V → Option Nat
  | .root id _ _ | .child id _ _ => some id
  | _ => none

/-- The group that is closed. -/
def closes? : Change V → Option Nat
  | .ended g | .closed g => some g
  | _ => none

/-- What is entered in the group. -/
def entryIn? (g : Nat) : Change V → Option (Entry V)
  | .child id p _ => if p = g then some (.group id) else none
  | .example x => if x.group = g then some (.example x) else none
  | _ => none

/-- The definition that is made of the name in the group. -/
def definitionIn? (g : Nat) (name : HelperName V) : Change V → Option (Definition V)
  | .define h d => if h = g ∧ d.name.same name then some d else none
  | _ => none

/-- The example that is declared. -/
def example? : Change V → Option (Example V)
  | .example x => some x
  | _ => none

/-- The group as it comes into being. -/
def fresh? (g : Nat) : Change V → Option (Group V)
  | .root id d t => if id = g then some (.fresh d none t) else none
  | .child id p d => if id = g then some (.fresh d (some p) none) else none
  | _ => none

/-- What the change makes of a group that is there. -/
def grow (g : Nat) (gr : Group V) : Change V → Group V
  | .root _ _ _ => gr
  | .child id p _ => if p = g then { gr with entries := gr.entries ++ [.group id] } else gr
  | .example x => if x.group = g then { gr with entries := gr.entries ++ [.example x] } else gr
  | .define h d => if h = g then { gr with helpers := gr.helpers.put d } else gr
  | .ended h | .closed h => if h = g then { gr with isSealed := true } else gr

/-- The groups whose blocks are running, the innermost first, once the change has been made. Only the innermost block
can end. -/
def blocks : List Nat → Change V → Option (List Nat)
  | st, .root id _ _ | st, .child id _ _ => some (id :: st)
  | g :: st, .ended g' => if g = g' then some st else none
  | [], .ended _ => none
  | st, _ => some st

theorem entryIn?_eq_example {c : Change V} {g : Nat} {x : Example V} :
    c.entryIn? g = some (.example x) ↔ c = .example x ∧ x.group = g := by
  cases c <;> simp [entryIn?]
  grind

theorem example?_eq_some {c : Change V} {x : Example V} : c.example? = some x ↔ c = .example x := by
  cases c <;> simp [example?]

theorem entryIn?_eq_group {c : Change V} {g id : Nat} :
    c.entryIn? g = some (.group id) ↔ ∃ d, c = .child id g d := by
  cases c <;> simp [entryIn?]
  grind

section
variable (c : Change V) (g : Nat) (gr : Group V)

theorem fresh?_isSome : (c.fresh? g).isSome = true ↔ c.created? = some g := by
  cases c <;> simp [fresh?, created?]

theorem grow_parent : (c.grow g gr).parent = gr.parent := by
  cases c <;> simp only [grow] <;> (try split) <;> rfl

theorem grow_entries : (c.grow g gr).entries = gr.entries ++ (c.entryIn? g).toList := by
  cases c <;> simp only [grow, entryIn?] <;> (try split) <;> simp

theorem grow_isSealed : (c.grow g gr).isSealed = (gr.isSealed || c.closes? == some g) := by
  cases c <;> simp only [grow, closes?] <;> (try split) <;> simp_all

theorem find?_grow_helpers (name : HelperName V) :
    (c.grow g gr).helpers.find? name = (c.definitionIn? g name).or (gr.helpers.find? name) := by
  cases c with
  | define h d =>
    simp only [grow, definitionIn?]
    by_cases hg : h = g
    · cases hn : d.name.same name with
      | false => simp [hg, HelperTable.find?_put_other d _ name hn]
      | true => simp [hg, ← HelperTable.find?_congr hn, HelperTable.find?_put]
    · simp [hg]
  | root => rfl
  | _ =>
    simp only [grow, definitionIn?]
    split <;> rfl

end
end Change

/-! ## Running blocks -/

namespace Change

variable {V : Type}

/-- The groups whose blocks are running at the end, the innermost first, if the blocks have ended in the right order. -/
def running (st : List Nat) (cs : List (Change V)) : Option (List Nat) := cs.foldlM blocks st

theorem running_append (st : List Nat) (cs ds : List (Change V)) :
    running st (cs ++ ds) = (running st cs).bind fun st' => running st' ds := List.foldlM_append

/-- No group comes into being and no block ends. -/
def isFlat (c : Change V) : Bool :=
  match c with
  | .root _ _ _ | .child _ _ _ | .ended _ => false
  | _ => true

/-- Each block that begins ends, after those that have begun in the meantime; no block ends that has begun before. -/
inductive Whole : List (Change V) → Prop
  | nil : Whole []
  | flat {c : Change V} {cs : List (Change V)} (hc : c.isFlat = true) (h : Whole cs) : Whole (c :: cs)
  | block {id p : Nat} {d : V} {cs ds : List (Change V)} (h : Whole cs) (hd : Whole ds) :
    Whole (.child id p d :: (cs ++ .ended id :: ds))

theorem Whole.append {cs ds : List (Change V)} (h : Whole cs) (hd : Whole ds) : Whole (cs ++ ds) := by
  induction h with
  | nil => exact hd
  | flat hc _ ih => exact .flat hc ih
  | block h _ _ ih => simpa using Whole.block h ih

/-- In the end the blocks are running that were running at the beginning. -/
theorem Whole.running_eq {cs : List (Change V)} (h : Whole cs) (st : List Nat) : running st cs = some st := by
  induction h generalizing st with
  | nil => rfl
  | @flat c cs hc h ih =>
    have hb : c.blocks st = some st := by
      cases c <;> simp_all [isFlat, blocks]
    show (c.blocks st).bind (running · cs) = some st
    rw [hb, Option.bind_some, ih]
  | @block id p d cs ds h hd ih ihd =>
    show running (id :: st) (cs ++ .ended id :: ds) = some st
    rw [running_append, ih, Option.bind_some]
    show (blocks (id :: st) (.ended id)).bind (running · ds) = some st
    rw [blocks, if_pos rfl, Option.bind_some, ihd]

/-- The history of a tree runs the root's block and ends it. -/
theorem Whole.running_tree {id : Nat} {d : V} {t : Option V} {cs ds : List (Change V)} (h : Whole cs) (hd : Whole ds) :
    running [] (.root id d t :: (cs ++ .ended id :: ds)) = some [] := by
  show running [id] (cs ++ .ended id :: ds) = some []
  rw [running_append, h.running_eq, Option.bind_some]
  show (blocks [id] (.ended id)).bind (running · ds) = some []
  rw [blocks, if_pos rfl, Option.bind_some, hd.running_eq]

theorem Whole.not_root {cs : List (Change V)} (h : Whole cs) (id : Nat) (d : V) (t : Option V) : .root id d t ∉ cs := by
  induction h with
  | nil => simp
  | flat hc _ ih =>
    rintro (_ | ⟨_, hm⟩)
    · simp [isFlat] at hc
    · exact ih hm
  | block _ _ ih ihd => simp [ih, ihd]

end Change

/-! ## Histories -/

namespace Forest

variable {V : Type}

/-- Makes a change. -/
def change (f : Forest V) : Change V → Forest V
  | .root _ d t => f.addGroup (.fresh d none t)
  | .child _ p d => f.addChild p d
  | .example x => f.addEntry x.group (.example x)
  | .define g d => f.define g d
  | .ended g | .closed g => f.closeGroup g

theorem size_change (f : Forest V) (c : Change V) :
    (f.change c).groups.size = f.groups.size + if c.created?.isSome then 1 else 0 := by
  cases c <;> simp [change, addGroup, addChild, addEntry, define, closeGroup, update, Change.created?]

/-- The forest after a history. -/
def after (f : Forest V) (cs : List (Change V)) : Forest V := cs.foldl change f

@[simp] theorem after_nil (f : Forest V) : f.after [] = f := rfl

@[simp] theorem after_cons (f : Forest V) (c : Change V) (cs : List (Change V)) :
    f.after (c :: cs) = (f.change c).after cs := rfl

theorem after_append (f : Forest V) (cs ds : List (Change V)) : f.after (cs ++ ds) = (f.after cs).after ds :=
  List.foldl_append ..

theorem after_concat (f : Forest V) (cs : List (Change V)) (c : Change V) :
    f.after (cs ++ [c]) = (f.after cs).change c := by
  rw [after_append, after_cons, after_nil]

end Forest

section
variable {U S : Type} (sf : Surface U S)

/-- The change can be made: declarations need an open group. A definition comes from a callable and tells the depth
and the full text of its group. -/
def Forest.Admits (f : Forest (Value U)) : Change (Value U) → Prop
  | .root id _ _ => id = f.groups.size
  | .child id p _ => f.isSealed p = false ∧ id = f.groups.size
  | .example x => f.isSealed x.group = false ∧ x.place = (f.entries x.group).length
  | .define g d => f.isSealed g = false ∧ d.level = f.depth g ∧ (∃ v, d.producer = .callable v) ∧
      ∃ s s', sf.fullText f g s = (.done d.groupPath, s')
  | .ended _ | .closed _ => True

/-- Each change could be made when it was made. -/
def Forest.Sound (f : Forest (Value U)) : List (Change (Value U)) → Prop
  | [] => True
  | c :: cs => f.Admits sf c ∧ (f.change c).Sound cs

variable {sf} {f : Forest (Value U)} {c : Change (Value U)} {cs ds : List (Change (Value U))} {g : Nat}

theorem Forest.sound_append : f.Sound sf (cs ++ ds) ↔ f.Sound sf cs ∧ (f.after cs).Sound sf ds := by
  induction cs generalizing f with
  | nil => simp [Forest.Sound]
  | cons c cs ih => simp [Forest.Sound, ih, and_assoc]

theorem Forest.sound_concat : f.Sound sf (cs ++ [c]) ↔ f.Sound sf cs ∧ (f.after cs).Admits sf c := by
  simp [Forest.sound_append, Forest.Sound]

/-! ## One change -/

namespace Forest.Admits

variable (h : f.Admits sf c)
include h

theorem grows : f.Grows (f.change c) := by
  cases c with
  | root id d t => exact .addGroup _
  | child id p d => exact (Declares.child p d h.1).grows
  | «example» x => exact (Declares.example x h.1 h.2).grows
  | define g d => exact (Declares.define g d h.1).grows
  | ended g => exact (Declares.close g).grows
  | closed g => exact (Declares.close g).grows

theorem wellFormed (hf : f.WellFormed) : (f.change c).WellFormed := by
  cases c with
  | root id d t => exact hf.addRoot d t
  | child id p d => exact hf.declares (.child p d h.1)
  | «example» x => exact hf.declares (.example x h.1 h.2)
  | define g d => exact hf.declares (.define g d h.1)
  | ended g => exact hf.declares (.close g)
  | closed g => exact hf.declares (.close g)

/-- A group that was there is there with what the change makes of it; a new group is there as it comes into being. -/
theorem group?_change (g : Nat) : (f.change c).group? g = (c.fresh? g).or ((f.group? g).map (c.grow g)) := by
  have hsame {h : Nat} {k : Group (Value U) → Group (Value U)} :
      (if h = g then (f.group? g).map k else f.group? g) = (f.group? g).map fun gr => if h = g then k gr else gr := by
    split <;> simp
  cases c with
  | root id d t =>
    obtain rfl : id = f.groups.size := h
    simp only [change, group?_addGroup, Change.fresh?, Change.grow, eq_comm (a := g)]
    split <;> simp
  | child id p d =>
    obtain ⟨ho, rfl⟩ := h
    obtain ⟨gr, hgr, -⟩ := exists_of_isSealed ho
    have hp : p < f.groups.size := (Array.getElem?_eq_some_iff.mp hgr).1
    simp only [change, addChild, addEntry, group?_update, group?_addGroup, Change.fresh?, Change.grow, eq_comm (a := g)]
    by_cases hg : f.groups.size = g
    · simp [hg, show p ≠ g by omega]
    · simp [hg, hsame]
  | «example» x => exact (group?_update ..).trans hsame
  | define g' d => exact (group?_update ..).trans hsame
  | ended g' => exact (group?_update ..).trans hsame
  | closed g' => exact (group?_update ..).trans hsame

/-- A new group gets the next number, and nothing has been made of it yet. -/
theorem of_fresh? {gr : Group (Value U)} (hg : c.fresh? g = some gr) :
    g = f.groups.size ∧ gr.entries = [] ∧ gr.helpers = [] ∧ gr.isSealed = false ∧ c.entryIn? g = none ∧
      c.closes? = none ∧ ∀ name, c.definitionIn? g name = none := by
  cases c with
  | root id d t =>
    simp only [Change.fresh?, Option.ite_none_right_eq_some, Option.some.injEq] at hg
    obtain ⟨rfl, rfl⟩ := hg
    exact ⟨h, rfl, rfl, rfl, rfl, rfl, fun _ => rfl⟩
  | child id p d =>
    simp only [Change.fresh?, Option.ite_none_right_eq_some, Option.some.injEq] at hg
    obtain ⟨rfl, rfl⟩ := hg
    obtain ⟨gr, hgr, -⟩ := exists_of_isSealed h.1
    have hp : p ≠ id := by
      have hlt := (Array.getElem?_eq_some_iff.mp hgr).1
      have hid := h.2
      omega
    exact ⟨h.2, rfl, rfl, rfl, if_neg hp, rfl, fun _ => rfl⟩
  | _ => simp [Change.fresh?] at hg

/-- Nothing is declared in a group that is not there. -/
theorem of_group?_none (hg : f.group? g = none) : c.entryIn? g = none ∧ ∀ name, c.definitionIn? g name = none := by
  have hne {i : Nat} (ho : f.isSealed i = false) : i ≠ g := by
    rintro rfl
    obtain ⟨gr, hgr, -⟩ := exists_of_isSealed ho
    simp [hg] at hgr
  cases c with
  | child id p d => exact ⟨if_neg (hne h.1), fun _ => rfl⟩
  | «example» x => exact ⟨if_neg (hne h.1), fun _ => rfl⟩
  | define i d => exact ⟨rfl, fun _ => if_neg fun hd => hne h.1 hd.1⟩
  | _ => exact ⟨rfl, fun _ => rfl⟩

theorem of_created? {id : Nat} (hc : c.created? = some id) : id = f.groups.size := by
  cases c with
  | root i d t => exact (Option.some.inj hc).symm.trans h
  | child i p d => exact (Option.some.inj hc).symm.trans h.2
  | _ => simp [Change.created?] at hc

theorem entries_change (g : Nat) : (f.change c).entries g = f.entries g ++ (c.entryIn? g).toList := by
  unfold entries
  rw [h.group?_change]
  cases hg : c.fresh? g with
  | some gr =>
    obtain ⟨rfl, he, -, -, hn, -⟩ := h.of_fresh? hg
    simp [he, hn, group?]
  | none =>
    cases hf : f.group? g with
    | some gr => simp [Change.grow_entries]
    | none => simp [(h.of_group?_none hf).1]

theorem find?_helpers_change (g : Nat) (name : HelperName (Value U)) :
    ((f.change c).helpers g).find? name = (c.definitionIn? g name).or ((f.helpers g).find? name) := by
  unfold helpers
  rw [h.group?_change]
  cases hg : c.fresh? g with
  | some gr =>
    obtain ⟨rfl, -, ht, -, -, -, hn⟩ := h.of_fresh? hg
    simp [ht, hn, group?]
  | none =>
    cases hf : f.group? g with
    | some gr => simp [Change.find?_grow_helpers]
    | none => simp [(h.of_group?_none hf).2]

theorem isSealed_change (g : Nat) :
    (f.change c).isSealed g = if c.created? = some g then false else f.isSealed g || c.closes? == some g := by
  unfold isSealed
  rw [h.group?_change]
  cases hg : c.fresh? g with
  | some gr =>
    obtain ⟨rfl, -, -, hs, -⟩ := h.of_fresh? hg
    have hcr : c.created? = some f.groups.size := (c.fresh?_isSome _).mp (hg ▸ rfl)
    simp [hs, hcr]
  | none =>
    have hcr : c.created? ≠ some g := fun hcr => by simpa [hg] using (c.fresh?_isSome g).mpr hcr
    rw [if_neg hcr]
    cases f.group? g with
    | some gr => simp [Change.grow_isSealed]
    | none => simp

theorem parent?_change (g : Nat) :
    (f.change c).parent? g = ((c.fresh? g).map (·.parent)).getD (f.parent? g) := by
  unfold parent?
  rw [h.group?_change]
  cases c.fresh? g with
  | some gr => rfl
  | none => cases f.group? g <;> simp [Change.grow_parent]

/-- A group comes into being in an open one or as a root. -/
theorem isSealed_parent {id p : Nat} (hc : c.created? = some id) (hp : (f.change c).parent? id = some p) :
    f.isSealed p = false := by
  rw [h.parent?_change] at hp
  cases c with
  | root i d t =>
    obtain rfl : i = id := Option.some.inj hc
    simp [Change.fresh?, Group.fresh] at hp
  | child i q d =>
    obtain rfl : i = id := Option.some.inj hc
    obtain rfl : q = p := by simpa [Change.fresh?, Group.fresh] using hp
    exact h.1
  | _ => simp [Change.created?] at hc

end Forest.Admits

/-! ## A whole history -/

namespace Forest.Sound

variable (h : f.Sound sf cs)
include h

theorem grows : f.Grows (f.after cs) := by
  induction cs generalizing f with
  | nil => exact .refl f
  | cons c cs ih => exact h.1.grows.trans (ih h.2)

theorem wellFormed (hf : f.WellFormed) : (f.after cs).WellFormed := by
  induction cs generalizing f with
  | nil => exact hf
  | cons c cs ih => exact ih h.2 (h.1.wellFormed hf)

/-- A group holds what was entered in it, in this order. -/
theorem entries_after (g : Nat) : (f.after cs).entries g = f.entries g ++ cs.filterMap (·.entryIn? g) := by
  induction cs generalizing f with
  | nil => simp
  | cons c cs ih =>
    rw [after_cons, ih h.2, h.1.entries_change, List.append_assoc]
    cases hc : c.entryIn? g <;> simp [hc]

/-- The definition of a name in a group is the last one that was made. -/
theorem find?_helpers_after (g : Nat) (name : HelperName (Value U)) :
    ((f.after cs).helpers g).find? name =
      ((cs.filterMap (·.definitionIn? g name)).getLast?).or ((f.helpers g).find? name) := by
  induction cs generalizing f with
  | nil => simp
  | cons c cs ih =>
    rw [after_cons, ih h.2, h.1.find?_helpers_change]
    cases hc : c.definitionIn? g name with
    | none => simp [hc]
    | some d =>
      rw [List.filterMap_cons, hc, List.getLast?_cons]
      cases (cs.filterMap (·.definitionIn? g name)).getLast? <;> simp

theorem size_after : (f.after cs).groups.size = f.groups.size + (cs.filterMap Change.created?).length := by
  induction cs generalizing f with
  | nil => rfl
  | cons c cs ih =>
    rw [after_cons, ih h.2, size_change]
    cases hc : c.created? <;> simp [hc]
    omega

/-- The groups get their numbers one after the other. -/
theorem created_eq :
    cs.filterMap Change.created? = List.range' f.groups.size (cs.filterMap Change.created?).length := by
  induction cs generalizing f with
  | nil => rfl
  | cons c cs ih =>
    have htail := ih h.2
    rw [size_change] at htail
    cases hc : c.created? with
    | none => simpa [hc] using htail
    | some id =>
      rw [hc] at htail
      obtain rfl : id = f.groups.size := h.1.of_created? hc
      rw [List.filterMap_cons_some hc, htail]
      simp [List.range'_succ]

/-- The groups that have come into being are those that were not there before. -/
theorem mem_created_iff {g : Nat} :
    g ∈ cs.filterMap Change.created? ↔ f.groups.size ≤ g ∧ g < (f.after cs).groups.size := by
  rw [h.created_eq, List.mem_range'_1, h.size_after]

/-- A root stays what it was when it came into being. -/
theorem group?_root {id : Nat} {d : Value U} {t : Option (Value U)} {ds : List (Change (Value U))}
    (hc : cs = .root id d t :: ds) :
    ∃ gr, (f.after cs).group? id = some gr ∧ gr.parent = none ∧ gr.target = t ∧ gr.description = d := by
  subst hc
  have hfresh : (f.change (.root id d t)).group? id = some (.fresh d none t) := by
    rw [h.1.group?_change]
    simp [Change.fresh?]
  obtain ⟨gr, hgr, hgrows⟩ := grows h.2 id _ hfresh
  exact ⟨gr, hgr, hgrows.parent, hgrows.target, hgrows.description⟩

theorem parent?_root {id : Nat} {d : Value U} {t : Option (Value U)} {ds : List (Change (Value U))}
    (hc : cs = .root id d t :: ds) : (f.after cs).parent? id = none := by
  obtain ⟨gr, hgr, hparent, -⟩ := h.group?_root hc
  simp [parent?, hgr, hparent]

end Forest.Sound
end
end Exemplar

import Exemplar.Value

/-!
# Exemplar.Forest — groups, examples and where they stand

Groups are numbered in the order in which they come into being, so a group's parent has a smaller number. A group
holds its entries and its own definitions of helpers in the order of their declaration; a redefinition keeps the
place of the first one. Everything here is plain data: who may change a group, and when, is decided elsewhere.

* `group?_addGroup`, `group?_update`: what the two ways of changing a forest do to each group.
* `HelperTable.find?_put`, `HelperTable.find?_put_other`: a definition is found under its own name and hides no other.
-/

namespace Exemplar

/-! ## Examples and groups -/

/-- An example, which stands at a place among the entries of its group. Without a body it is pending. -/
structure Example (V : Type) where
  description : V
  group : Nat
  place : Nat
  body : Option V
  pendingMessage : V

def Example.isPending {V : Type} (e : Example V) : Bool := e.body.isNone

/-- An entry of a group: a nested group or an example. -/
inductive Entry (V : Type) where
  | group (id : Nat)
  | example (e : Example V)

/-- Definitions of helpers, each under the name that was the first to be stored there. A definition that takes the
place of another one may carry that name in another form, equal as a name. -/
abbrev HelperTable (V : Type) : Type := List (HelperName V × Definition V)

/-- A group. -/
structure Group (V : Type) where
  description : V
  parent : Option Nat
  target : Option V
  isSealed : Bool
  entries : List (Entry V)
  helpers : HelperTable V

/-- A group as it comes into being: open and without declarations. -/
def Group.fresh {V : Type} (description : V) (parent : Option Nat) (target : Option V) : Group V :=
  ⟨description, parent, target, false, [], []⟩

/-! ## Tables of definitions -/

namespace HelperTable

variable {V : Type}

def find? (table : HelperTable V) (name : HelperName V) : Option (Definition V) :=
  (List.find? (fun p => p.1.same name) table).map (·.2)

/-- Stores a definition, in place of one of the same name or at the end. -/
def put (d : Definition V) : HelperTable V → HelperTable V
  | [] => [(d.name, d)]
  | p :: r => if p.1.same d.name then (p.1, d) :: r else p :: put d r

/-- The names in the order in which they came first. -/
def names (table : HelperTable V) : List (HelperName V) := table.map (·.1)

def definitions (table : HelperTable V) : List (Definition V) := table.map (·.2)

theorem find?_cons (p : HelperName V × Definition V) (r : HelperTable V) (name : HelperName V) :
    find? (p :: r) name = if p.1.same name then some p.2 else find? r name := by
  unfold find?
  rw [List.find?_cons]
  cases p.1.same name <;> rfl

theorem find?_put (d : Definition V) (table : HelperTable V) : find? (put d table) d.name = some d := by
  induction table with
  | nil => simp [put, find?, HelperName.same_refl]
  | cons p r ih =>
    unfold put
    split
    · rename_i h
      rw [find?_cons, if_pos h]
    · rename_i h
      rw [find?_cons, if_neg h, ih]

theorem find?_put_other (d : Definition V) (table : HelperTable V) (name : HelperName V)
    (h : d.name.same name = false) : find? (put d table) name = find? table name := by
  induction table with
  | nil => simp [put, find?, h]
  | cons p r ih =>
    unfold put
    split
    · rename_i hp
      have hn : p.1.same name = false := by
        cases hpn : p.1.same name
        · rfl
        · rw [HelperName.same_symm] at hp
          rw [HelperName.same_trans hp hpn] at h
          exact h
      rw [find?_cons, find?_cons, hn]
      simp
    · rw [find?_cons, find?_cons, ih]

theorem names_put (d : Definition V) (table : HelperTable V) :
    names (put d table) = names table ∨ names (put d table) = names table ++ [d.name] := by
  induction table with
  | nil => exact Or.inr rfl
  | cons p r ih =>
    unfold put
    split
    · exact Or.inl rfl
    · rcases ih with h | h <;> simp_all [names]

end HelperTable

/-! ## Forests -/

/-- All groups, each at the place of its number. -/
structure Forest (V : Type) where
  groups : Array (Group V)

namespace Forest

variable {V : Type}

def empty : Forest V := ⟨#[]⟩

def group? (f : Forest V) (id : Nat) : Option (Group V) := f.groups[id]?

/-- The forest with one more group; its number is the former number of groups. -/
def addGroup (f : Forest V) (g : Group V) : Forest V := ⟨f.groups.push g⟩

def update (f : Forest V) (id : Nat) (change : Group V → Group V) : Forest V := ⟨f.groups.modify id change⟩

theorem group?_addGroup (f : Forest V) (g : Group V) (id : Nat) :
    (f.addGroup g).group? id = if id = f.groups.size then some g else f.group? id := by
  simp only [group?, addGroup, Array.getElem?_push]

theorem group?_update (f : Forest V) (id : Nat) (change : Group V → Group V) (i : Nat) :
    (f.update id change).group? i = if id = i then (f.group? i).map change else f.group? i := by
  simp only [group?, update, Array.getElem?_modify]

/-! ## Changing a group -/

def closeGroup (f : Forest V) (id : Nat) : Forest V :=
  f.update id fun g => { g with isSealed := true }

def addEntry (f : Forest V) (id : Nat) (e : Entry V) : Forest V :=
  f.update id fun g => { g with entries := g.entries ++ [e] }

/-- Stores a definition in the group's own table. -/
def define (f : Forest V) (id : Nat) (d : Definition V) : Forest V :=
  f.update id fun g => { g with helpers := g.helpers.put d }

/-- Adds a nested group as the last entry of its parent. -/
def addChild (f : Forest V) (parent : Nat) (description : V) : Forest V :=
  (f.addGroup (.fresh description (some parent) none)).addEntry parent (.group f.groups.size)

/-! ## Asking -/

/-- The group is closed; a number that no group has counts as closed. -/
def isSealed (f : Forest V) (id : Nat) : Bool := ((f.group? id).map (·.isSealed)).getD true

def entries (f : Forest V) (id : Nat) : List (Entry V) := ((f.group? id).map (·.entries)).getD []

def helpers (f : Forest V) (id : Nat) : HelperTable V := ((f.group? id).map (·.helpers)).getD []

def parent? (f : Forest V) (id : Nat) : Option Nat := (f.group? id).bind (·.parent)

/-- The way from the root down to the group, at most `n` groups long. -/
def path (f : Forest V) : Nat → Nat → List Nat
  | 0, _ => []
  | n + 1, id =>
    match f.parent? id with
    | some p => f.path n p ++ [id]
    | none => [id]

/-- The group and everything above it, root first. A parent has a smaller number, so `id + 1` groups suffice. -/
def ancestors (f : Forest V) (id : Nat) : List Nat := f.path (id + 1) id

def depth (f : Forest V) (id : Nat) : Nat := (f.ancestors id).length - 1

def root (f : Forest V) (id : Nat) : Nat := ((f.ancestors id).head?).getD id

def target? (f : Forest V) (id : Nat) : Option V := (f.group? (f.root id)).bind (·.target)

/-- The definitions of a name along the way from the root to the group, one per group that has one. -/
def declaredChain (f : Forest V) (id : Nat) (name : HelperName V) : List (Definition V) :=
  (f.ancestors id).filterMap fun a => (f.helpers a).find? name

/-! ## Walking -/

/-- A place in a walk: for each group on the way, how many of its entries have been passed, innermost first. -/
abbrev Cursor := List (Nat × Nat)

/-- The next example from the place on, looking at up to `n` entries and ends of groups. -/
def nextFrom (f : Forest V) : Nat → Cursor → Option (Example V × Cursor)
  | 0, _ => none
  | _ + 1, [] => none
  | n + 1, (g, i) :: rest =>
    match (f.entries g)[i]? with
    | none => f.nextFrom n rest
    | some (.example e) => some (e, (g, i + 1) :: rest)
    | some (.group c) => f.nextFrom n ((c, 0) :: (g, i + 1) :: rest)

/-- The next example from the place on. Each group is entered and left at most once. -/
def next? (f : Forest V) (c : Cursor) : Option (Example V × Cursor) :=
  f.nextFrom (2 * f.groups.size + c.length + 1) c

/-- The examples below a group, depth first, down to `n` levels. -/
def walkTo (f : Forest V) : Nat → Nat → List (Example V)
  | 0, _ => []
  | n + 1, id => (f.entries id).flatMap fun
    | .example e => [e]
    | .group c => f.walkTo n c

/-- The examples below a group in the order of declaration, those of a nested group at its place. -/
def walk (f : Forest V) (id : Nat) : List (Example V) := f.walkTo (f.groups.size + 1) id

end Forest
end Exemplar

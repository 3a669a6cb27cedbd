import Exemplar.Proofs.Ancestry
import Exemplar.Proofs.Lockstep

/-!
# Exemplar.Proofs.Views — two runs of alike examples

An example runs in one world, and an example that is alike in another. The worlds need have little in common: the
groups above the two examples are alike level by level, and so is what the specification makes of its own state. What
is given out in the course of the runs, scopes, functions outward and recorders, corresponds if it was given out at the
same turn. Nothing corresponds to a builder, so whoever holds one is beyond this comparison, as is whoever declares.

* `View`: what corresponds on the specification's own side.
* `Kinship.Level.of_sameData`: what holds no handles is alike if it is the same.
* `View.twin`: when two worlds that the runs lead to correspond.
* `Together.of_start`: they do at the start.
-/

namespace Exemplar

variable {U S : Type}

/-! ## What corresponds -/

/-- What the specification counts as the same in two runs: its own values, and its own states. -/
structure View (U S : Type) where
  user : U → U → Prop
  tie : S → S → Prop

/-- Two numbers at the same distance from where counting began. -/
def SameTurn (b b' n n' : Nat) : Prop := ∃ k, n = b + k ∧ n' = b' + k

theorem SameTurn.start (b b' : Nat) : SameTurn b b' b b' := ⟨0, rfl, rfl⟩

theorem SameTurn.succ {b b' n n' : Nat} (h : SameTurn b b' n n') : SameTurn b b' (n + 1) (n' + 1) := by
  obtain ⟨k, rfl, rfl⟩ := h
  exact ⟨k + 1, rfl, rfl⟩

/-- Two numbers of the same turn are counted alike. -/
theorem SameTurn.eq_iff {b b' n n' : Nat} (h : SameTurn b b' n n') (k : Nat) : n = b + k ↔ n' = b' + k := by
  obtain ⟨j, rfl, rfl⟩ := h
  omega

/-- Examples with alike descriptions and bodies; if there is nothing to run, the messages are alike too. -/
structure Example.Like {V V' : Type} (R : V → V' → Prop) (x : Example V) (x' : Example V') : Prop where
  description : R x.description x'.description
  body : Option.Rel R x.body x'.body
  pending : x.body = none → R x.pendingMessage x'.pendingMessage

namespace View

variable (q : View U S) (w w' : World U S) (x x' : Example (Value U))

/-- The numbers that correspond are those given out at the same turn since these two worlds. -/
def handles : Handles U where
  user := q.user
  scope := SameTurn w.scopes.size w'.scopes.size
  serial := SameTurn w.serials w'.serials
  recorder := SameTurn w.recorders.size w'.recorders.size
  builder _ _ := False
  place _ _ := True

/-- The values that correspond. -/
abbrev value : Value U → Value U → Prop := Value.Like (q.handles w w')

/-- The kinship in which scopes belong to these two examples. -/
def kinship : Kinship U where
  toHandles := q.handles w w'
  value := q.value w w'
  value_iff := ⟨fun ⟨h⟩ => h, .of_shape⟩
  place_refl _ := trivial
  owner y y' := (y = x ∧ y' = x') ∧ x.Like (q.value w w') x'
  description := by
    rintro _ _ ⟨⟨rfl, rfl⟩, h⟩
    exact h.description
  body := by
    rintro _ _ ⟨⟨rfl, rfl⟩, h⟩
    exact h.body
  pending := by
    rintro _ _ ⟨⟨rfl, rfl⟩, h⟩
    exact h.pending

end View

/-! ## Alike by inspection -/

section
variable [DecidableEq U]

/-- The values are the same, and neither is a handle. -/
def Value.sameData : Value U → Value U → Bool
  | .absent, .absent => true
  | .flag b, .flag b' => b == b'
  | .text s, .text s' => s == s'
  | .user u, .user u' => u == u'
  | _, _ => false

def Value.sameData? : Option (Value U) → Option (Value U) → Bool
  | some v, some v' => v.sameData v'
  | none, none => true
  | _, _ => false

def HelperName.sameData : HelperName (Value U) → HelperName (Value U) → Bool
  | .text s, .text s' => s == s'
  | .textLike s v, .textLike s' v' => s == s' && v.sameData v'
  | .other k v, .other k' v' => k == k' && v.sameData v'
  | _, _ => false

def Producer.sameData : Producer (Value U) → Producer (Value U) → Bool
  | .callable f, .callable f' => f.sameData f'
  | .target v, .target v' => v.sameData v'
  | _, _ => false

def Example.sameData (x x' : Example (Value U)) : Bool :=
  x.description.sameData x'.description && Value.sameData? x.body x'.body &&
    x.pendingMessage.sameData x'.pendingMessage

/-- The groups have the same description and, in the same order, the same definitions, and no handles in these. -/
def Group.sameData (g g' : Group (Value U)) : Bool :=
  g.description.sameData g'.description && decide (List.Forall₂ (fun p p' => p.1.sameData p'.1 = true ∧
    p.2.name.sameData p'.2.name = true ∧ p.2.producer.sameData p'.2.producer = true) g.helpers g'.helpers)

def Forest.sameData (f f' : Forest (Value U)) (a a' : Nat) : Bool :=
  match f.group? a, f'.group? a' with
  | some g, some g' => g.sameData g'
  | _, _ => false

namespace Kinship

variable {K : Kinship U} (hu : ∀ u, K.user u u)
include hu

theorem value_of_sameData {v v' : Value U} (h : v.sameData v' = true) : K.value v v' := by
  refine K.value_iff.mpr ?_
  unfold Value.sameData at h
  split at h
  · exact .absent
  · exact eq_of_beq h ▸ .flag _
  · exact eq_of_beq h ▸ .text _
  · exact eq_of_beq h ▸ .user (hu _)
  · cases h

theorem rel_of_sameData? {o o' : Option (Value U)} (h : Value.sameData? o o' = true) : Option.Rel K.value o o' := by
  unfold Value.sameData? at h
  split at h
  · exact .some (value_of_sameData hu h)
  · exact .none
  · cases h

theorem name_of_sameData {n n' : HelperName (Value U)} (h : n.sameData n' = true) : K.Name n n' := by
  unfold HelperName.sameData at h
  split at h
  · exact eq_of_beq h ▸ .text _
  · obtain ⟨hs, hv⟩ := Bool.and_eq_true_iff.mp h
    exact eq_of_beq hs ▸ .textLike _ (value_of_sameData hu hv)
  · obtain ⟨hk, hv⟩ := Bool.and_eq_true_iff.mp h
    exact eq_of_beq hk ▸ .other _ (value_of_sameData hu hv)
  · cases h

theorem producer_of_sameData {p p' : Producer (Value U)} (h : p.sameData p' = true) : p.Like K.value p' := by
  unfold Producer.sameData at h
  split at h
  · exact .callable (value_of_sameData hu h)
  · exact .target (value_of_sameData hu h)
  · cases h

theorem example_of_sameData {x x' : Example (Value U)} (h : x.sameData x' = true) : x.Like K.value x' := by
  simp only [Example.sameData, Bool.and_eq_true] at h
  obtain ⟨⟨hdescription, hbody⟩, hmessage⟩ := h
  exact ⟨value_of_sameData hu hdescription, rel_of_sameData? hu hbody, fun _ => value_of_sameData hu hmessage⟩

/-- Groups of the same data are alike, whatever numbers have been given out. -/
theorem Level.of_sameData (hp : ∀ p p', K.place p p') {f f' : Forest (Value U)} {a a' : Nat}
    (h : f.sameData f' a a' = true) : K.Level f f' a a' := by
  unfold Forest.sameData at h
  split at h
  · rename_i g g' hg hg'
    simp only [Group.sameData, Bool.and_eq_true, decide_eq_true_eq] at h
    obtain ⟨hdescription, hhelpers⟩ := h
    refine ⟨?_, fun {n n'} hn => ?_⟩
    · rw [hg, hg']
      exact .some (value_of_sameData hu hdescription)
    · rw [Forest.helpers, Forest.helpers, hg, hg', Option.map_some, Option.map_some, Option.getD_some, Option.getD_some]
      generalize g.helpers = table at hhelpers ⊢
      generalize g'.helpers = table' at hhelpers ⊢
      induction hhelpers with
      | nil => exact .none
      | @cons p p' r r' hd _ ih =>
        obtain ⟨hkey, hname, hproducer⟩ := hd
        rw [HelperTable.find?_cons, HelperTable.find?_cons, (name_of_sameData hu hkey).same_eq hn]
        split
        · exact .some (.mk (name_of_sameData hu hname) (producer_of_sameData hu hproducer) (hp _ _))
        · exact ih
  · cases h

end Kinship
end

/-! ## Worlds that correspond -/

/-- The runs of the two examples that began in `w₀` and `w₀'` have come to worlds that correspond. -/
structure Together (q : View U S) (w₀ w₀' : World U S) (x x' : Example (Value U)) (w w' : World U S) : Prop where
  outside : q.tie w.outside w'.outside
  verbose : w'.verbose = w.verbose
  serials : SameTurn w₀.serials w₀'.serials w.serials w'.serials
  recorders : SameTurn w₀.recorders.size w₀'.recorders.size w.recorders.size w'.recorders.size
  recorded (k : Nat) : q.value w₀ w₀' (w.recorded (w₀.recorders.size + k)) (w'.recorded (w₀'.recorders.size + k))
  scopes : SameTurn w₀.scopes.size w₀'.scopes.size w.scopes.size w'.scopes.size
  scope? (k : Nat) : Option.Rel (q.kinship w₀ w₀' x x').Scope (w.scope? (w₀.scopes.size + k))
    (w'.scope? (w₀'.scopes.size + k))
  chain : (q.kinship w₀ w₀' x x').Chain w.forest x.group w'.forest x'.group

namespace Together

variable {q : View U S} {w₀ w₀' w w' : World U S} {x x' : Example (Value U)}

/-- At the start nothing has been given out. -/
theorem of_start (ht : q.tie w.outside w'.outside) (hv : w'.verbose = w.verbose)
    (hc : (q.kinship w w' x x').Chain w.forest x.group w'.forest x'.group) : Together q w w' x x' w w' where
  outside := ht
  verbose := hv
  serials := .start ..
  recorders := .start ..
  recorded k := by
    rw [World.recorded, World.recorded, Array.getElem?_eq_none (Nat.le_add_right ..),
      Array.getElem?_eq_none (Nat.le_add_right ..)]
    exact Kinship.absent (K := q.kinship w w' x x')
  scopes := .start ..
  scope? k := by
    rw [World.scope?, World.scope?, Array.getElem?_eq_none (Nat.le_add_right ..),
      Array.getElem?_eq_none (Nat.le_add_right ..)]
    exact .none
  chain := hc

variable (h : Together q w₀ w₀' x x' w w')
include h

theorem recorded_push (k : Nat) : q.value w₀ w₀'
    ({ w with recorders := w.recorders.push .absent }.recorded (w₀.recorders.size + k))
    ({ w' with recorders := w'.recorders.push .absent }.recorded (w₀'.recorders.size + k)) := by
  have hold := h.recorded k
  have hiff : w₀.recorders.size + k = w.recorders.size ↔ w₀'.recorders.size + k = w'.recorders.size := by
    rw [eq_comm, h.recorders.eq_iff k, eq_comm]
  simp only [World.recorded, Array.getElem?_push] at hold ⊢
  by_cases hk : w₀.recorders.size + k = w.recorders.size
  · rw [if_pos hk, if_pos (hiff.mp hk)]
    exact Kinship.absent (K := q.kinship w₀ w₀' x x')
  · rw [if_neg hk, if_neg (mt hiff.mpr hk)]
    exact hold

theorem recorded_set {r r' : Nat} {v v' : Value U} (hr : SameTurn w₀.recorders.size w₀'.recorders.size r r')
    (hv : q.value w₀ w₀' v v') (k : Nat) : q.value w₀ w₀'
    ({ w with recorders := w.recorders.setIfInBounds r v }.recorded (w₀.recorders.size + k))
    ({ w' with recorders := w'.recorders.setIfInBounds r' v' }.recorded (w₀'.recorders.size + k)) := by
  have hold := h.recorded k
  have hiff := hr.eq_iff k
  obtain ⟨j, hj, hj'⟩ := h.recorders
  simp only [World.recorded, Array.getElem?_setIfInBounds] at hold ⊢
  by_cases hk : r = w₀.recorders.size + k
  · rw [if_pos hk, if_pos (hiff.mp hk)]
    by_cases hlt : k < j
    · rw [if_pos (by omega), if_pos (by omega)]
      exact hv
    · rw [if_neg (by omega), if_neg (by omega)]
      exact Kinship.absent (K := q.kinship w₀ w₀' x x')
  · rw [if_neg hk, if_neg (mt hiff.mpr hk)]
    exact hold

theorem scope?_update {i i' : Nat} {c c' : Scope (Value U) → Scope (Value U)}
    (hi : SameTurn w₀.scopes.size w₀'.scopes.size i i')
    (hc : ∀ s s', (q.kinship w₀ w₀' x x').Scope s s' → (q.kinship w₀ w₀' x x').Scope (c s) (c' s')) (k : Nat) :
    Option.Rel (q.kinship w₀ w₀' x x').Scope ((w.updateScope i c).scope? (w₀.scopes.size + k))
      ((w'.updateScope i' c').scope? (w₀'.scopes.size + k)) := by
  have hold := h.scope? k
  rw [World.scope?_updateScope, World.scope?_updateScope]
  by_cases hk : i = w₀.scopes.size + k
  · rw [if_pos hk, if_pos ((hi.eq_iff k).mp hk)]
    generalize w.scope? (w₀.scopes.size + k) = o at hold ⊢
    generalize w'.scope? (w₀'.scopes.size + k) = o' at hold ⊢
    cases hold with
    | some hs => exact .some (hc _ _ hs)
    | none => exact .none
  · rw [if_neg hk, if_neg (mt (hi.eq_iff k).mpr hk)]
    exact hold

theorem scope?_open {ev ev' : Evaluator (Value U)} (hev : ev.Like (q.value w₀ w₀') ev')
    (hx : x.Like (q.value w₀ w₀') x') (k : Nat) :
    Option.Rel (q.kinship w₀ w₀' x x').Scope ((w.opened x ev).scope? (w₀.scopes.size + k))
      ((w'.opened x' ev').scope? (w₀'.scopes.size + k)) := by
  have hiff : w₀.scopes.size + k = w.scopes.size ↔ w₀'.scopes.size + k = w'.scopes.size := by
    rw [eq_comm, h.scopes.eq_iff k, eq_comm]
  rw [World.scope?_opened, World.scope?_opened]
  by_cases hk : w₀.scopes.size + k = w.scopes.size
  · rw [if_pos hk, if_pos (hiff.mp hk)]
    have howner : (q.kinship w₀ w₀' x x').owner x x' := ⟨⟨rfl, rfl⟩, hx⟩
    exact .some (.fresh howner hev)
  · rw [if_neg hk, if_neg (mt hiff.mpr hk)]
    exact h.scope? k

end Together

/-- Runs of the two examples, which make no declarations. -/
def View.twin (q : View U S) (w₀ w₀' : World U S) (x x' : Example (Value U)) : Twin (q.kinship w₀ w₀' x x') S S where
  Mark := Unit
  holds _ := Together q w₀ w₀' x x'
  Tie := Unit
  tie _ := q.tie
  declares _ _ _ _ := False
  outside h := ⟨(), h.outside, fun _ _ ht => { h with outside := ht }⟩
  verbose h := h.verbose
  records h _ := { h with }
  counts h := ⟨h.serials, { h with serials := h.serials.succ }⟩
  recorders h := ⟨h.recorders, { h with
    recorders := by simpa using h.recorders.succ
    recorded := h.recorded_push }⟩
  meets h hr hv := { h with
    recorders := by simpa using h.recorders
    recorded := h.recorded_set hr hv }
  recorded := by
    rintro _ w w' _ _ h ⟨k, rfl, rfl⟩
    exact h.recorded k
  scope? := by
    rintro _ w w' _ _ h ⟨k, rfl, rfl⟩
    exact h.scope? k
  updates h hi hc := { h with
    scopes := by simpa [World.updateScope] using h.scopes
    scope? := h.scope?_update hi hc }
  opens := by
    rintro _ w w' _ _ ev ev' h ⟨⟨rfl, rfl⟩, hx⟩ hev
    exact ⟨h.scopes, { h with
      scopes := by simpa [World.opened] using h.scopes.succ
      scope? := h.scope?_open hev hx }⟩
  chain := by
    rintro _ w w' _ _ h ⟨⟨rfl, rfl⟩, -⟩
    exact h.chain

end Exemplar

import Mathlib.Algebra.GroupWithZero.Nat
import Mathlib.Algebra.Order.BigOperators.Group.List
import Mathlib.Algebra.Order.Group.Nat
import Mathlib.Data.List.Basic
import Mathlib.Data.List.TakeWhile

/-!
# Exemplar.Proofs.Reference — helpers without a memory

What the values of helpers are when none is ever kept. A definition is a plan: it reads helpers and calls the
definition outward, and goes on by what it is given. The value of a name is that of its innermost definition, in which
every reading starts anew, with the name on the stack.

* `Plan.run`: what a plan comes to, given how it is answered.
* `Book.ref`: the value of a name under a stack.
* `Book.Right`: what is kept is the value under every stack apart from it.
* `Book.Right.keep`: so it remains when a name is kept whose definitions come to that value by what was kept before.
-/

namespace Exemplar

variable {E V : Type}

/-! ## Plans -/

/-- What a definition does, as far as other definitions are concerned. An answer that is an error ends it. -/
inductive Plan (E V : Type) where
  | done (v : V)
  | fail (err : E)
  | read (name : String) (next : V → Plan E V)
  | outward (next : V → Plan E V)

/-- What a plan comes to. -/
def Plan.run (read : String → Except E V) (outer : Except E V) : Plan E V → Except E V
  | .done v => .ok v
  | .fail err => .error err
  | .read name next => do
    let v ← read name
    (next v).run read outer
  | .outward next => do
    let v ← outer
    (next v).run read outer

section
variable (read : String → Except E V) (outer : Except E V)

theorem Plan.run_read (name : String) (next : V → Plan E V) :
    (Plan.read name next).run read outer = read name >>= fun v => (next v).run read outer := rfl

theorem Plan.run_outward (next : V → Plan E V) :
    (Plan.outward next).run read outer = outer >>= fun v => (next v).run read outer := rfl

theorem Plan.run_read_done (name : String) : (Plan.read name .done).run read outer = read name := by
  rw [run_read]
  cases read name <;> rfl

theorem Plan.run_outward_done : (Plan.outward .done).run read outer = outer := by
  rw [run_outward]
  cases outer <;> rfl

end

/-! ## Books -/

/-- The plans of all definitions, innermost first under each name, and the errors for what has none. -/
structure Book (E V : Type) where
  names : List String
  chain : String → List (Plan E V)
  /-- The error for a name that is read while it is computed, along the cycle. -/
  circular : List String → String → E
  /-- The error for a name without definitions. -/
  undefined : String → E
  /-- The error for a call outward from the outermost definition of a name. -/
  noOuter : String → E
  mem_names : ∀ name, chain name ≠ [] → name ∈ names

namespace Book

variable (b : Book E V)

/-- What the innermost of some definitions comes to; each calls the next one outward afresh. -/
def runChain (read : String → Except E V) (name : String) : List (Plan E V) → Except E V
  | [] => .error (b.noOuter name)
  | p :: rest => p.run read (runChain read name rest)

/-- The names that are not on the stack. -/
def missing (stack : List String) : List String := b.names.filter (· ∉ stack)

variable {b}

theorem missing_push {stack : List String} {name : String} :
    b.missing (stack ++ [name]) = (b.missing stack).filter (· ≠ name) := by
  rw [missing, missing, List.filter_filter]
  refine List.filter_congr fun y _ => ?_
  simp [not_or, and_comm]

theorem missing_push_lt {stack : List String} {name : String} (hn : name ∉ stack) (hc : b.chain name ≠ []) :
    (b.missing (stack ++ [name])).length < (b.missing stack).length := by
  rw [missing_push]
  refine List.length_filter_lt_length_iff_exists.mpr ⟨name, ?_, by simp⟩
  exact List.mem_filter.mpr ⟨b.mem_names name hc, by simpa using hn⟩

variable (b)

/-- The value of a name, where those on the stack are being computed. -/
def ref (stack : List String) (name : String) : Except E V :=
  if _ : name ∈ stack then .error (b.circular (stack.dropWhile (· != name) ++ [name]) name)
  else if _ : b.chain name = [] then .error (b.undefined name)
  else b.runChain (fun y => ref (stack ++ [name]) y) name (b.chain name)
termination_by (b.missing stack).length
decreasing_by exact missing_push_lt ‹_› ‹_›

variable {stack : List String} {name : String}

theorem ref_of_mem (hn : name ∈ stack) :
    b.ref stack name = .error (b.circular (stack.dropWhile (· != name) ++ [name]) name) := by
  rw [ref, dif_pos hn]

theorem ref_of_undefined (hn : name ∉ stack) (hc : b.chain name = []) :
    b.ref stack name = .error (b.undefined name) := by
  rw [ref, dif_neg hn, dif_pos hc]

theorem ref_of_chain (hn : name ∉ stack) (hc : b.chain name ≠ []) :
    b.ref stack name = b.runChain (b.ref (stack ++ [name])) name (b.chain name) := by
  rw [ref, dif_neg hn, dif_neg hc]

/-! ## How deep a reading goes -/

/-- How many definitions the names have that are not on the stack. -/
def weight (stack : List String) : Nat := ((b.missing stack).map fun name => (b.chain name).length).sum

/-- How many definitions there are. -/
def size : Nat := b.weight []

theorem weight_push (hn : name ∉ stack) : (b.chain name).length + b.weight (stack ++ [name]) ≤ b.weight stack := by
  have hle (l : List String) :
      ((l.filter (· ≠ name)).map fun y => (b.chain y).length).sum ≤ (l.map fun y => (b.chain y).length).sum :=
    (List.filter_sublist.map _).sum_le_sum fun _ _ => Nat.zero_le _
  rw [weight, weight, missing_push]
  by_cases hc : b.chain name = []
  · rw [hc, List.length_nil, Nat.zero_add]
    exact hle _
  · have hm : name ∈ b.missing stack := List.mem_filter.mpr ⟨b.mem_names name hc, by simpa using hn⟩
    obtain ⟨l, r, hlr⟩ := List.append_of_mem hm
    have hl := hle l
    have hr := hle r
    rw [hlr, List.filter_append, List.filter_cons_of_neg (by simp)]
    simp only [List.map_append, List.sum_append, List.map_cons, List.sum_cons]
    omega

/-! ## What may be kept -/

/-- The reader answers with what is kept. -/
def Agrees (read : String → Except E V) (kept : String → Option V) : Prop :=
  ∀ name v, kept name = some v → read name = .ok v

/-- What is kept is the value under every stack of names that are not kept. -/
def Right (kept : String → Option V) : Prop :=
  ∀ name v, kept name = some v → ∀ stack, (∀ y ∈ stack, kept y = none) → b.ref stack name = .ok v

theorem right_empty : b.Right fun _ => none := by
  intro name v hv
  simp at hv

variable {b} {kept : String → Option V}

/-- The naive reader agrees with what is kept, as long as nothing kept is on its stack. -/
theorem Right.agrees (h : b.Right kept) (hs : ∀ y ∈ stack, kept y = none) : Agrees (b.ref stack) kept :=
  fun name v hv => h name v hv stack hs

/-- A name may be kept with the value that its definitions come to by what is kept already. No stack that is apart from
all that can hide a cycle: each name that was read on the way is kept, and so not on the stack. -/
theorem Right.keep (h : b.Right kept) {v : V} (hc : b.chain name ≠ []) (hk : kept name = none)
    (hv : ∀ read, Agrees read kept → b.runChain read name (b.chain name) = .ok v) :
    b.Right fun y => if y = name then some v else kept y := by
  intro y u hu stack hs
  have hname : name ∉ stack := fun hn => by simpa using hs name hn
  have hold (z : String) (hz : z ∈ stack) : kept z = none := by
    have hne : z ≠ name := by
      rintro rfl
      exact hname hz
    simpa [hne] using hs z hz
  by_cases hy : y = name
  · subst hy
    obtain rfl : v = u := by simpa using hu
    rw [b.ref_of_chain hname hc]
    refine hv _ (h.agrees fun z hz => ?_)
    rcases List.mem_append.mp hz with hz | hz
    · exact hold z hz
    · exact List.mem_singleton.mp hz ▸ hk
  · exact h y u (by simpa [hy] using hu) stack hold

end Book
end Exemplar

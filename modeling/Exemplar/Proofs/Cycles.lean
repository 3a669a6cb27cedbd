import Exemplar.Proofs.Resolution
import Mathlib.Data.List.Chain
import Mathlib.Data.List.Forall2
import Mathlib.Logic.Relation

/-!
# Exemplar.Proofs.Cycles — when helpers have values

Definitions that ask the same whatever they are told make a graph: a name leads to the names that its active definitions
read, which are the innermost one and the next outward as long as each calls outward. A name has a value exactly when
everything it leads to has definitions and no cycle is met; otherwise the error tells of a name without definitions or
of a cycle of the graph, cut at its first repetition.

The naive evaluator carries the argument. Its stack is a path of the graph without repetition, so a name that is met on
the stack closes a cycle; and where a value comes out, every path is one more stack that a value came out of.

* `Plan.Asks`, `active`, `Reads`: what a plan asks for, and the graph.
* `Book.runChain_error`, `Book.runChain_done`: some definitions fail by a name that they read, or have read them all.
* `Book.ref_error`: an error tells of an undefined name or of a cycle.
* `Book.ref_done_iff`: when there is a value.
* `Site.value_iff_acyclic`: the same of a lookup.
-/

namespace Exemplar

open Relation

variable {E V : Type}

/-! ## What plans ask for -/

/-- What a plan can ask for. -/
inductive Query where
  | read (name : String)
  | outward
deriving DecidableEq, Repr

/-- Whatever it is told, the plan asks for these things in order and then has a value. -/
inductive Plan.Asks : List Query → Plan E V → Prop
  | done (v : V) : Asks [] (.done v)
  | read {name : String} {qs : List Query} {next : V → Plan E V} (h : ∀ v, Asks qs (next v)) :
    Asks (.read name :: qs) (.read name next)
  | outward {qs : List Query} {next : V → Plan E V} (h : ∀ v, Asks qs (next v)) :
    Asks (.outward :: qs) (.outward next)

namespace Plan.Asks

variable {read : String → Except E V} {outer : Except E V} {qs : List Query} {p : Plan E V}

/-- A plan fails by something that it asks for. -/
theorem run_error (h : p.Asks qs) {err : E} (hp : p.run read outer = .error err) :
    (∃ y, .read y ∈ qs ∧ read y = .error err) ∨ .outward ∈ qs ∧ outer = .error err := by
  induction h with
  | done v => cases hp
  | @read name qs next _ ih =>
    rw [Plan.run_read] at hp
    cases hr : read name with
    | error e =>
      rw [hr] at hp
      exact .inl ⟨name, List.mem_cons_self .., hr.trans hp⟩
    | ok v =>
      rw [hr] at hp
      rcases ih v hp with ⟨y, hy, he⟩ | ⟨ho, he⟩
      · exact .inl ⟨y, List.mem_cons_of_mem _ hy, he⟩
      · exact .inr ⟨List.mem_cons_of_mem _ ho, he⟩
  | @outward qs next _ ih =>
    rw [Plan.run_outward] at hp
    cases outer with
    | error e => exact .inr ⟨List.mem_cons_self .., hp⟩
    | ok v =>
      rcases ih v hp with ⟨y, hy, he⟩ | ⟨-, he⟩
      · exact .inl ⟨y, List.mem_cons_of_mem _ hy, he⟩
      · cases he

/-- A plan that has a value was given all that it asks for. -/
theorem run_done (h : p.Asks qs) {u : V} (hp : p.run read outer = .ok u) :
    (∀ y, .read y ∈ qs → ∃ v, read y = .ok v) ∧ (.outward ∈ qs → ∃ v, outer = .ok v) := by
  induction h with
  | done v => simp
  | @read name qs next _ ih =>
    rw [Plan.run_read] at hp
    cases hr : read name with
    | error e =>
      rw [hr] at hp
      cases hp
    | ok v =>
      rw [hr] at hp
      obtain ⟨hread, ho⟩ := ih v hp
      simp only [List.mem_cons, Query.read.injEq, reduceCtorEq, false_or]
      refine ⟨?_, ho⟩
      rintro y (rfl | hy)
      · exact ⟨v, hr⟩
      · exact hread y hy
  | @outward qs next _ ih =>
    rw [Plan.run_outward] at hp
    cases outer with
    | error e => cases hp
    | ok v =>
      obtain ⟨hread, -⟩ := ih v hp
      simp only [List.mem_cons, reduceCtorEq, false_or]
      exact ⟨hread, fun _ => ⟨v, rfl⟩⟩

end Plan.Asks

/-! ## The graph -/

/-- Of some definitions, innermost first and each by what it asks for, those that come to run: the innermost one, and
the next one outward as long as they call outward. -/
def active : List (List Query) → List (List Query)
  | [] => []
  | qs :: rest => qs :: if .outward ∈ qs then active rest else []

/-- The last definition that comes to run does not call outward. -/
def Grounded (chain : List (List Query)) : Prop := ∀ qs, (active chain).getLast? = some qs → .outward ∉ qs

theorem Grounded.tail {qs : List Query} {rest : List (List Query)} (h : Grounded (qs :: rest)) (ho : .outward ∈ qs) :
    rest ≠ [] ∧ Grounded rest := by
  have hactive : active (qs :: rest) = qs :: active rest := by rw [active, if_pos ho]
  cases rest with
  | nil => exact absurd ho (h qs (by rw [hactive]; rfl))
  | cons r rest =>
    refine ⟨List.cons_ne_nil _ _, fun q hq => h q ?_⟩
    rw [hactive]
    exact hq

/-- An active definition of the first name reads the second one. -/
def Reads (asks : String → List (List Query)) (x y : String) : Prop := ∃ qs ∈ active (asks x), .read y ∈ qs

/-- The list is a cycle to which `x` leads: it is a path of the graph, begins and ends with `y`, and has no other
repetition. -/
structure IsCycle (reads : String → String → Prop) (x y : String) (cycle : List String) : Prop where
  length : 2 ≤ cycle.length
  head : cycle.head? = some y
  last : cycle.getLast? = some y
  nodup : cycle.dropLast.Nodup
  reached : ∀ z ∈ cycle, ReflTransGen reads x z
  edges : cycle.IsChain reads

theorem IsCycle.transGen {reads : String → String → Prop} {x y : String} {cycle : List String}
    (h : IsCycle reads x y cycle) : ReflTransGen reads x y ∧ TransGen reads y y := by
  obtain ⟨hlength, hhead, hlast, -, hreached, hedges⟩ := h
  match cycle, hlength, hhead with
  | _ :: z :: l, _, rfl =>
    refine ⟨hreached y (List.mem_cons_self ..), ?_⟩
    have hyz := (List.isChain_cons_cons.mp hedges)
    refine .head' hyz.1 (List.relationReflTransGen_of_exists_isChain_cons l hyz.2 ?_)
    rw [List.getLast?_eq_some_getLast (List.cons_ne_nil _ _)] at hlast
    exact Option.some.inj hlast

namespace Book

variable {b : Book E V} {asks : String → List (List Query)} {stack : List String} {name : String}

/-! ## Definitions of one name -/

section
variable {read : String → Except E V} {chain : List (List Query)} {ps : List (Plan E V)}

/-- Some definitions of which the last active one does not call outward fail by a name that an active one reads. -/
theorem runChain_error (h : List.Forall₂ (fun qs p => Plan.Asks qs p) chain ps) (hg : Grounded chain) (hne : chain ≠ [])
    {err : E} (hp : b.runChain read name ps = .error err) :
    ∃ qs ∈ active chain, ∃ y, .read y ∈ qs ∧ read y = .error err := by
  induction h with
  | nil => exact absurd rfl hne
  | @cons qs p chain ps hqs _ ih =>
    rcases hqs.run_error hp with ⟨y, hy, he⟩ | ⟨ho, he⟩
    · exact ⟨qs, List.mem_cons_self .., y, hy, he⟩
    · obtain ⟨hne, hg⟩ := hg.tail ho
      obtain ⟨qs', hqs', hy⟩ := ih hg hne he
      rw [active, if_pos ho]
      exact ⟨qs', List.mem_cons_of_mem _ hqs', hy⟩

/-- Some definitions that have a value were given all that the active ones read. -/
theorem runChain_done (h : List.Forall₂ (fun qs p => Plan.Asks qs p) chain ps) {u : V}
    (hp : b.runChain read name ps = .ok u) : ∀ qs ∈ active chain, ∀ y, .read y ∈ qs → ∃ v, read y = .ok v := by
  induction h generalizing u with
  | nil => simp [active]
  | @cons qs p chain ps hqs _ ih =>
    obtain ⟨hread, ho⟩ := hqs.run_done hp
    intro qs' hqs' y hy
    rw [active] at hqs'
    rcases List.mem_cons.mp hqs' with rfl | hqs'
    · exact hread y hy
    · split at hqs'
      · next hout =>
        obtain ⟨v, hv⟩ := ho hout
        exact ih hv qs' hqs' y hy
      · cases hqs'

end

/-! ## The naive evaluator on the graph -/

/-- The definitions ask for these things. -/
def Asking (b : Book E V) (asks : String → List (List Query)) : Prop :=
  ∀ name, List.Forall₂ (fun qs p => Plan.Asks qs p) (asks name) (b.chain name)

theorem Asking.ne_nil (h : b.Asking asks) (hc : b.chain name ≠ []) : asks name ≠ [] := by
  intro hn
  have hlength := (h name).length_eq
  rw [hn] at hlength
  exact hc (List.length_eq_zero_iff.mp hlength.symm)

/-- An error tells of a name without definitions or of a cycle. The induction is on how many names are not on the stack;
the stack and the name make a path of the graph, to all of which `x` leads. -/
theorem ref_error (h : b.Asking asks) (hg : ∀ name, Grounded (asks name)) {x : String} (stack : List String)
    (name : String) (hnodup : stack.Nodup) (hpath : (stack ++ [name]).IsChain (Reads asks))
    (hx : ∀ z ∈ stack ++ [name], ReflTransGen (Reads asks) x z) {err : E} (he : b.ref stack name = .error err) :
    ∃ y, ReflTransGen (Reads asks) x y ∧
      (b.chain y = [] ∧ err = b.undefined y ∨
        ∃ cycle, err = b.circular cycle y ∧ IsCycle (Reads asks) x y cycle) := by
  by_cases hn : name ∈ stack
  · obtain ⟨before, behind, rfl, hfirst⟩ := List.eq_append_cons_of_mem hn
    have hdrop : (before ++ name :: behind).dropWhile (· != name) = name :: behind := by
      have hskip (z : String) (hz : z ∈ before) : (z != name) = true := bne_iff_ne.mpr fun he => hfirst (he ▸ hz)
      rw [List.dropWhile_append_of_pos hskip]
      simp
    rw [b.ref_of_mem hn, hdrop] at he
    rw [List.append_assoc] at hpath hx
    refine ⟨name, hx name (by simp), .inr ⟨_, (Except.error.inj he).symm, ?_⟩⟩
    exact {
      length := by simp
      head := rfl
      last := List.getLast?_concat
      nodup := by
        rw [List.dropLast_concat]
        exact hnodup.of_append_right
      reached := fun z hz => hx z (List.mem_append_right _ hz)
      edges := hpath.right_of_append }
  · by_cases hc : b.chain name = []
    · rw [b.ref_of_undefined hn hc] at he
      exact ⟨name, hx name (by simp), .inl ⟨hc, (Except.error.inj he).symm⟩⟩
    · rw [b.ref_of_chain hn hc] at he
      obtain ⟨qs, hqs, y, hy, he⟩ := runChain_error (h name) (hg name) (h.ne_nil hc) he
      have hread : Reads asks name y := ⟨qs, hqs, hy⟩
      have hlt := missing_push_lt hn hc
      refine ref_error h hg (stack ++ [name]) y (List.concat_eq_append ▸ hnodup.concat hn) ?_ ?_ he
      · refine hpath.append (List.isChain_singleton y) ?_
        simpa using hread
      · intro z hz
        rcases List.mem_append.mp hz with hz | hz
        · exact hx z hz
        · exact List.mem_singleton.mp hz ▸ (hx name (by simp)).tail hread
termination_by (b.missing stack).length

/-- Where a value comes out, one came out of every name on the way. -/
theorem ref_read (h : b.Asking asks) {u : V} (hv : b.ref stack name = .ok u) {y : String} (hy : Reads asks name y) :
    ∃ v, b.ref (stack ++ [name]) y = .ok v := by
  have hn : name ∉ stack := fun hn => by simp [b.ref_of_mem hn] at hv
  have hc : b.chain name ≠ [] := fun hc => by simp [b.ref_of_undefined hn hc] at hv
  rw [b.ref_of_chain hn hc] at hv
  obtain ⟨qs, hqs, hy⟩ := hy
  exact runChain_done (h name) hv qs hqs y hy

/-- Along a path the stacks grow. -/
theorem ref_reached (h : b.Asking asks) {u : V} (hv : b.ref stack name = .ok u) {y : String}
    (hy : ReflTransGen (Reads asks) name y) : ∃ stack' v, b.ref stack' y = .ok v ∧ stack ⊆ stack' := by
  induction hy with
  | refl => exact ⟨stack, u, hv, List.Subset.refl _⟩
  | tail _ hread ih =>
    obtain ⟨stack', v, hv', hsub⟩ := ih
    obtain ⟨v', hv''⟩ := ref_read h hv' hread
    exact ⟨_, v', hv'', List.Subset.trans hsub (List.subset_append_left _ _)⟩

/-- No name that has a value is on a cycle. -/
theorem ref_acyclic (h : b.Asking asks) {u : V} (hv : b.ref stack name = .ok u) : ¬TransGen (Reads asks) name name := by
  intro hcycle
  obtain ⟨y, hread, hback⟩ := TransGen.head'_iff.mp hcycle
  obtain ⟨v, hy⟩ := ref_read h hv hread
  obtain ⟨stack', v', hname, hsub⟩ := ref_reached h hy hback
  have hmem : name ∈ stack' := hsub (by simp)
  simp [b.ref_of_mem hmem] at hname

/-- A name has a value exactly when all it leads to is defined and lies on no cycle. -/
theorem ref_done_iff (h : b.Asking asks) (hg : ∀ name, Grounded (asks name)) (x : String) :
    (∃ v, b.ref [] x = .ok v) ↔
      ∀ y, ReflTransGen (Reads asks) x y → b.chain y ≠ [] ∧ ¬TransGen (Reads asks) y y := by
  constructor
  · rintro ⟨u, hu⟩ y hy
    obtain ⟨stack', v, hv, -⟩ := ref_reached h hu hy
    refine ⟨fun hc => ?_, ref_acyclic h hv⟩
    by_cases hn : y ∈ stack'
    · simp [b.ref_of_mem hn] at hv
    · simp [b.ref_of_undefined hn hc] at hv
  · intro hall
    cases hx : b.ref [] x with
    | ok v => exact ⟨v, rfl⟩
    | error err =>
      obtain ⟨y, hy, ⟨hc, -⟩ | ⟨cycle, -, hcycle⟩⟩ :=
        ref_error h hg [] x List.nodup_nil (List.isChain_singleton x) (by simpa using .refl) hx
      · exact absurd hc (hall y hy).1
      · exact absurd hcycle.transGen.2 (hall y hy).2

end Book

/-! ## Lookups -/

variable {U S : Type}

namespace Site

variable {h : Host U S} (site : Site h)

/-- The graph of the helpers of the site, given what each definition asks for. -/
def reads (asks : Definition (Value U) → List Query) : String → String → Prop :=
  Reads fun name => (site.definitions name).map asks

variable {site} {plan : Definition (Value U) → Plan (Exn (Value U)) (Value U)}
  {asks : Definition (Value U) → List Query}

theorem asking_of_asks (hasks : ∀ name, ∀ d ∈ site.definitions name, (plan d).Asks (asks d)) :
    (site.book plan).Asking fun name => (site.definitions name).map asks := by
  intro name
  show List.Forall₂ _ ((site.definitions name).map asks) ((site.definitions name).map plan)
  rw [List.forall₂_map_left_iff, List.forall₂_map_right_iff, List.forall₂_same]
  exact hasks name

/-- When the first lookup on a scope has a value. Each definition of the site asks for the same things in the same
order, whatever it is told, and no outermost active one calls outward. Then the lookup has a value exactly when all the
names that it leads to are defined and none lies on a cycle. If it has none it raises either the error for one of these
names that is not defined, or the one for a cycle of the graph, cut at its first repetition. It needs no more levels
than there are definitions, each with the calls it makes. -/
theorem value_iff_acyclic {calls : Nat} (hplan : site.Carries plan calls)
    (hasks : ∀ name, ∀ d ∈ site.definitions name, (plan d).Asks (asks d))
    (hg : ∀ name, Grounded ((site.definitions name).map asks)) {n : Nat}
    (hn : (calls + 1) * (site.book plan).size ≤ n) {w : World U S} {s : Scope (Value U)} (hf : w.forest = site.forest)
    (ho : w.outside = site.outside) (hs : w.scope? site.id = some s) (hown : s.owner = site.owner) (hmemo : s.memo = [])
    (hres : s.resolving = []) (x : String) :
    ((∃ v w', (h.engine n).lookup site.id (.text x) w = (.done v, w')) ↔
      ∀ y, ReflTransGen (site.reads asks) x y → site.definitions y ≠ [] ∧ ¬TransGen (site.reads asks) y y) ∧
    ((∃ v w', (h.engine n).lookup site.id (.text x) w = (.done v, w')) ∨
      ∃ y w', ReflTransGen (site.reads asks) x y ∧
        (site.definitions y = [] ∧ (h.engine n).lookup site.id (.text x) w = (.raised (site.error
          (if y = subjectName then .undefinedTarget else .undefinedHelper y) (.text y) y), w') ∨
        ∃ cycle, IsCycle (site.reads asks) x y cycle ∧ (h.engine n).lookup site.id (.text x) w =
          (.raised (site.error (.circularHelper cycle) (.text y) y), w'))) := by
  have hasking := asking_of_asks hasks
  have hchain (y : String) : (site.book plan).chain y ≠ [] ↔ site.definitions y ≠ [] := not_congr List.map_eq_nil_iff
  have hvalue := Book.ref_done_iff hasking hg x
  simp only [hchain] at hvalue
  obtain ⟨w', hlookup, -⟩ := lookup_eq_ref hplan hn (At.of_fresh hf ho hs hown hmemo hres) x
  rw [Action.attempt_apply] at hlookup
  rcases hl : (h.engine n).lookup site.id (.text x) w with ⟨v | err | _, w₁⟩
  · rw [hl] at hlookup
    have hdone : (site.book plan).ref [] x = .ok v := by
      simpa using (congrArg Prod.fst hlookup).symm
    exact ⟨⟨fun _ => hvalue.mp ⟨v, hdone⟩, fun _ => ⟨v, w₁, rfl⟩⟩, .inl ⟨v, w₁, rfl⟩⟩
  · rw [hl] at hlookup
    have herr : (site.book plan).ref [] x = .error err := by
      simpa using (congrArg Prod.fst hlookup).symm
    refine ⟨⟨?_, fun hall => ?_⟩, .inr ?_⟩
    · rintro ⟨v, w₂, hdone⟩
      cases hdone
    · obtain ⟨v, hv⟩ := hvalue.mpr hall
      cases herr.symm.trans hv
    · obtain ⟨y, hy, ⟨hc, rfl⟩ | ⟨cycle, rfl, hcycle⟩⟩ :=
        Book.ref_error hasking hg [] x List.nodup_nil (List.isChain_singleton x) (by simpa using .refl) herr
      · exact ⟨y, w₁, hy, .inl ⟨List.map_eq_nil_iff.mp hc, rfl⟩⟩
      · exact ⟨y, w₁, hy, .inr ⟨cycle, hcycle, rfl⟩⟩
  · rw [hl] at hlookup
    cases hlookup

end Site

/-! ## A tree -/

/-- What the helpers of the example tree ask for. -/
def helperAsks (d : Definition (Value Nat)) : List Query :=
  match d.producer with
  | .callable (.user 1) => [.read "b", .outward]
  | .callable (.user 3) => [.read "c"]
  | _ => []

theorem definitions_nestedSite (name : String) :
    nestedSite.definitions name =
      if name = "a" then [numberedHelper "a" 1 1, numberedHelper "a" 0 0]
      else if name = "b" then [numberedHelper "b" 0 2]
      else if name = "c" then [numberedHelper "c" 0 3] else [] :=
  Forest.definitions_nested (.text "inner") "root" name

theorem helperPlan_asks (name : String) : ∀ d ∈ nestedSite.definitions name, (helperPlan d).Asks (helperAsks d) := by
  rw [definitions_nestedSite]
  intro d hd
  split at hd
  · simp only [List.mem_cons, List.not_mem_nil, or_false] at hd
    rcases hd with rfl | rfl
    · exact .read fun _ => .outward fun v => .done v
    · exact .done _
  · split at hd
    · obtain rfl := List.mem_singleton.mp hd
      exact .done _
    · split at hd
      · obtain rfl := List.mem_singleton.mp hd
        exact .read fun v => .done v
      · cases hd

theorem grounded_nestedSite (name : String) : Grounded ((nestedSite.definitions name).map helperAsks) := by
  rw [definitions_nestedSite]
  intro qs hqs
  split at hqs
  · obtain rfl : [] = qs := Option.some.inj hqs
    simp
  · split at hqs
    · obtain rfl : [] = qs := Option.some.inj hqs
      simp
    · split at hqs
      · obtain rfl : [.read "c"] = qs := Option.some.inj hqs
        simp
      · cases hqs

/-- The helper `a` reads `b`, and `c` reads itself. -/
theorem reads_nestedSite {x y : String} :
    nestedSite.reads helperAsks x y ↔ x = "a" ∧ y = "b" ∨ x = "c" ∧ y = "c" := by
  have hreads : nestedSite.reads helperAsks x y ↔
      ∃ qs ∈ active ((nestedSite.definitions x).map helperAsks), .read y ∈ qs := Iff.rfl
  rw [hreads, definitions_nestedSite]
  split
  · next hx => simp [active, helperAsks, numberedHelper, hx]
  · split
    · next hx => simp [active, helperAsks, numberedHelper, hx]
    · split
      · next hx => simp [active, helperAsks, numberedHelper, hx]
      · next ha _ hc => simp [active, ha, hc]

/-- The first of the helpers has a value, the last one is told to be a cycle. -/
theorem value_iff_acyclic_nested :
    let e := (Host.numbers (fun u => u == 9) helperCode).engine 4
    (∃ v w', e.lookup 0 (.text "a") (nestedWorld (.text "inner")) = (.done v, w')) ∧
    ∃ cycle w', IsCycle (nestedSite.reads helperAsks) "c" "c" cycle ∧
      e.lookup 0 (.text "c") (nestedWorld (.text "inner")) =
        (.raised (nestedSite.error (.circularHelper cycle) (.text "c") "c"), w') := by
  intro e
  have hall := Site.value_iff_acyclic nestedSite_carries helperPlan_asks grounded_nestedSite (n := 4) (by decide)
    (w := nestedWorld (.text "inner")) rfl rfl rfl rfl rfl rfl
  obtain ⟨ha, -⟩ := hall "a"
  obtain ⟨hc, hor⟩ := hall "c"
  have hself : nestedSite.reads helperAsks "c" "c" := reads_nestedSite.mpr (.inr ⟨rfl, rfl⟩)
  have hstay {y : String} (hy : ReflTransGen (nestedSite.reads helperAsks) "c" y) : y = "c" := by
    induction hy with
    | refl => rfl
    | tail _ hread ih => simpa [ih] using reads_nestedSite.mp hread
  refine ⟨ha.mpr fun y hy => ?_, ?_⟩
  · have hreached : y = "a" ∨ y = "b" := by
      induction hy with
      | refl => exact .inl rfl
      | tail _ hread ih =>
        rcases reads_nestedSite.mp hread with ⟨-, rfl⟩ | ⟨rfl, -⟩
        · exact .inr rfl
        · simp at ih
    refine ⟨by rcases hreached with rfl | rfl <;> simp [definitions_nestedSite], fun hcycle => ?_⟩
    obtain ⟨z, -, hback⟩ := TransGen.tail'_iff.mp hcycle
    rcases reads_nestedSite.mp hback with ⟨-, rfl⟩ | ⟨-, rfl⟩
    · obtain ⟨z, hread, -⟩ := TransGen.head'_iff.mp hcycle
      simpa using reads_nestedSite.mp hread
    · simp at hreached
  · rcases hor with hvalue | ⟨y, w', hy, ⟨hd, -⟩ | ⟨cycle, hcycle, hl⟩⟩
    · exact absurd (.single hself) (hc.mp hvalue "c" .refl).2
    · rw [hstay hy, definitions_nestedSite] at hd
      cases hd
    · obtain rfl := hstay hy
      exact ⟨cycle, w', hcycle, hl⟩

/-- Where the description of a group cannot be shown, neither an undefined name nor a cycle is told: the error that is in
the way of the text is raised in its place. -/
theorem mistakes_untold :
    let e := (Host.numbers (fun u => u == 9) helperCode).engine 4
    (Forest.bare (.user 9) 3).definitions 1 "root" "z" = [] ∧
    (∃ w', e.lookup 0 (.text "z") (bareWorld (.user 9) 3) = (.raised (.thrown (.user 9)), w')) ∧
    ∃ w', e.lookup 0 (.text "c") (bareWorld (.user 9) 3) = (.raised (.thrown (.user 9)), w') :=
  ⟨rfl, ⟨_, rfl⟩, ⟨_, rfl⟩⟩

end Exemplar

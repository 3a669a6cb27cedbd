import Exemplar.Proofs.Passage
import Exemplar.Proofs.Resolution
import Exemplar.Proofs.Starts
import Mathlib.Algebra.Order.BigOperators.Group.LocallyFinite

/-!
# Exemplar.Proofs.Overrides — how often each definition runs

A definition may call the one outward of it as often as it likes, and what comes of it is not kept. So the runs multiply
along the chain: each definition runs once for every way to come to it from the innermost one by calls outward. What the
innermost one returns is kept, and then none runs again.

* `Start.Resolves.length_runsOf`: the number of runs of each definition in what has been started.
* `Host.resolves_lookup`: what a lookup starts is of that form.
* `Host.nothing_started`: the lookup of a kept name starts nothing.
* `Host.overrides_resolved`: how the definitions of a helper run when it is looked up for the first time, and after.
-/

namespace Exemplar

variable {U S α β : Type}

/-! ## The runs of one resolution -/

namespace Start

/-- The run was started for a lookup of the name on the scope, or by the function outward of a run that was. -/
inductive Of (l : List (Start U)) (id : Nat) (name : HelperName (Value U)) : Start U → Prop
  | looked {b : Start U} {m : HelperName (Value U)} (hb : b ∈ l) (ho : b.origin = .lookup m) (hi : b.run.scope = id)
    (hm : m.same name = true) : Of l id name b
  | called {b c : Start U} (hc : Of l id name c) (hb : b ∈ l) (ho : b.origin = .outward c.run) : Of l id name b

open Classical in
/-- The runs of the name on the scope that have so many definitions outward of theirs. -/
noncomputable def runsOf (l : List (Start U)) (id : Nat) (name : HelperName (Value U)) (j : Nat) : List (Start U) :=
  l.filter fun b => Of l id name b ∧ b.run.outward.length = j

open Classical in
/-- The starts by the function outward of a run. -/
noncomputable def callsOf (l : List (Start U)) (c : OuterCall (Value U)) : List (Start U) :=
  l.filter fun b => b.origin = .outward c

/-- The starts are those of a run in which the name was computed once on the scope, from these definitions, the
innermost first. -/
structure Resolves (l : List (Start U)) (id : Nat) (name : HelperName (Value U)) (chain : List (Definition (Value U))) :
    Prop where
  distinct : (l.map (·.run.serial)).Nodup
  follows (b : Start U) : b ∈ l → b.Follows Heed.all
  once : ∃ first ∈ l, first.origin = .lookup name ∧ first.run.scope = id ∧
    first.run.current :: first.run.outward = chain ∧
    ∀ b ∈ l, ∀ m, b.origin = .lookup m → b.run.scope = id → m.same name = true → b = first

section
variable {l : List (Start U)} {id : Nat} {name : HelperName (Value U)} {chain : List (Definition (Value U))}
  {b c : Start U} {j : Nat}

theorem Of.mem (h : Of l id name b) : b ∈ l := by
  cases h <;> assumption

theorem mem_runsOf : b ∈ runsOf l id name j ↔ Of l id name b ∧ b.run.outward.length = j := by
  simp only [runsOf, List.mem_filter, decide_eq_true_eq]
  exact ⟨fun h => h.2, fun h => ⟨h.1.mem, h⟩⟩

theorem mem_callsOf {c : OuterCall (Value U)} : b ∈ callsOf l c ↔ b ∈ l ∧ b.origin = .outward c := by
  simp [callsOf]

namespace Resolves

variable (h : Resolves l id name chain)
include h

theorem eq_of_serial (hb : b ∈ l) (hc : c ∈ l) (hs : b.run.serial = c.run.serial) : b = c :=
  List.inj_on_of_nodup_map h.distinct hb hc hs

theorem follows_outward {c : OuterCall (Value U)} (hb : b ∈ l) (ho : b.origin = .outward c) :
    b.run.scope = c.scope ∧ c.outward = b.run.current :: b.run.outward := by
  have hf := h.follows b hb
  unfold Follows at hf
  rwa [ho] at hf

/-- Each run is one of the definitions, with those outward of it, on the scope. -/
theorem of_chain (hb : Of l id name b) : b.run.scope = id ∧ b.run.current :: b.run.outward <:+ chain := by
  obtain ⟨first, -, -, -, hchain, hfirst⟩ := h.once
  induction hb with
  | looked hb ho hi hm =>
    obtain rfl := hfirst _ hb _ ho hi hm
    exact ⟨hi, hchain ▸ List.suffix_rfl⟩
  | called _ hb ho ih =>
    obtain ⟨hscope, houtward⟩ := h.follows_outward hb ho
    exact ⟨hscope.trans ih.1, houtward ▸ (List.suffix_cons _ _).trans ih.2⟩

theorem outward_lt (hb : Of l id name b) : b.run.outward.length < chain.length :=
  (h.of_chain hb).2.length_le

/-- The definition run is the one at the place that the number of those outward of it tells. -/
theorem of_definitions {ds : List (Definition (Value U))} (hds : ds.reverse = chain) (hb : Of l id name b) :
    ds[b.run.outward.length]? = some b.run.current ∧ ds.take b.run.outward.length = b.run.outward.reverse := by
  obtain ⟨inner, hchain⟩ := (h.of_chain hb).2
  have heq : ds = b.run.outward.reverse ++ b.run.current :: inner.reverse := by
    rw [← List.reverse_reverse ds, hds, ← hchain]
    simp
  constructor
  · rw [heq, List.getElem?_append_right (by simp)]
    simp
  · rw [heq, ← List.length_reverse, List.take_left]

theorem nodup : l.Nodup := h.distinct.of_map _

theorem nodup_runsOf (j : Nat) : (runsOf l id name j).Nodup := h.nodup.filter _

theorem nodup_callsOf (c : OuterCall (Value U)) : (callsOf l c).Nodup := h.nodup.filter _

/-- The innermost definition runs once. -/
theorem length_runsOf_innermost (hj : j + 1 = chain.length) : (runsOf l id name j).length = 1 := by
  obtain ⟨first, hmem, ho, hi, hchain, hfirst⟩ := h.once
  have hlength : first.run.outward.length = j := by
    rw [← hchain, List.length_cons] at hj
    omega
  have hperm : (runsOf l id name j).Perm [first] := by
    refine (List.perm_ext_iff_of_nodup (h.nodup_runsOf j) (List.nodup_singleton _)).mpr fun b => ?_
    rw [mem_runsOf, List.mem_singleton]
    constructor
    · rintro ⟨hb, hlast⟩
      cases hb with
      | looked hb ho hi hm => exact hfirst _ hb _ ho hi hm
      | called hc hb ho =>
        -- a run that was called for has fewer definitions outward of it than the one that called
        have hlt := h.outward_lt hc
        rw [(h.follows_outward hb ho).2, List.length_cons] at hlt
        omega
    · rintro rfl
      exact ⟨.looked hmem ho hi (HelperName.same_refl name), hlength⟩
  rw [hperm.length_eq, List.length_singleton]

/-- Every other definition runs as often as those next inward call for it. -/
theorem runsOf_perm (hj : j + 1 < chain.length) :
    (runsOf l id name j).Perm ((runsOf l id name (j + 1)).flatMap fun c => callsOf l c.run) := by
  obtain ⟨first, -, -, -, hchain, hfirst⟩ := h.once
  have hdisjoint : (runsOf l id name (j + 1)).Pairwise
      (Function.onFun List.Disjoint fun c => callsOf l c.run) := by
    refine List.Nodup.pairwise_of_forall_ne (h.nodup_runsOf _) fun c hc c' hc' hne b hb hb' => hne ?_
    have hrun : c.run = c'.run := by
      have ho := (mem_callsOf.mp hb).2.symm.trans (mem_callsOf.mp hb').2
      cases hcr : c.run
      cases hcr' : c'.run
      rw [hcr, hcr'] at ho
      cases ho
      rfl
    exact h.eq_of_serial (mem_runsOf.mp hc).1.mem (mem_runsOf.mp hc').1.mem (congrArg OuterCall.serial hrun)
  refine (List.perm_ext_iff_of_nodup (h.nodup_runsOf j)
    (List.nodup_flatMap.mpr ⟨fun c _ => h.nodup_callsOf c.run, hdisjoint⟩)).mpr fun b => ?_
  rw [mem_runsOf, List.mem_flatMap]
  constructor
  · rintro ⟨hb, hlength⟩
    cases hb with
    | looked hb ho hi hm =>
      obtain rfl := hfirst _ hb _ ho hi hm
      rw [← hchain, List.length_cons] at hj
      omega
    | @called _ c hc hb ho =>
      refine ⟨c, mem_runsOf.mpr ⟨hc, ?_⟩, mem_callsOf.mpr ⟨hb, ho⟩⟩
      rw [(h.follows_outward hb ho).2, List.length_cons, hlength]
  · rintro ⟨c, hc, hb⟩
    obtain ⟨hc, hlength⟩ := mem_runsOf.mp hc
    obtain ⟨hb, ho⟩ := mem_callsOf.mp hb
    rw [(h.follows_outward hb ho).2, List.length_cons] at hlength
    exact ⟨.called hc hb ho, by omega⟩

/-- If the definitions call outward so many times each, the numbers of their runs are the products. -/
theorem length_runsOf {k : Nat → Nat} (hk : ∀ b, Of l id name b → b.run.outward ≠ [] →
    (callsOf l b.run).length = k b.run.outward.length) (hj : j < chain.length) :
    (runsOf l id name j).length = ∏ i ∈ Finset.Ico (j + 1) chain.length, k i := by
  obtain ⟨d, hd⟩ : ∃ d, d = chain.length - (j + 1) := ⟨_, rfl⟩
  induction d generalizing j with
  | zero =>
    have hlast : j + 1 = chain.length := by omega
    rw [h.length_runsOf_innermost hlast, hlast, Finset.Ico_self, Finset.prod_empty]
  | succ d ih =>
    have hinner : j + 1 < chain.length := by omega
    have hcalls (c : Start U) (hc : c ∈ runsOf l id name (j + 1)) : (callsOf l c.run).length = k (j + 1) := by
      obtain ⟨hc, hlength⟩ := mem_runsOf.mp hc
      rw [hk c hc (List.ne_nil_of_length_eq_add_one hlength), hlength]
    rw [(h.runsOf_perm hinner).length_eq, List.length_flatMap, List.map_congr_left hcalls, List.map_const',
      List.sum_replicate_nat, ih hinner (by omega), Finset.prod_eq_prod_Ico_succ_bot hinner, Nat.mul_comm]

end Resolves
end
end Start

/-! ## Values that are kept -/

namespace Scope

variable {V : Type} {f : Forest V} {s s' : Scope V} {name : HelperName V} {v : V}

theorem Sound.kept?_of_mem (h : s.Sound f) (hm : (name, v) ∈ s.memo) : s.kept? name = some v := by
  have hnodup : (s.memo.map fun p => p.1.slot).Nodup := by
    have hdistinct := h.distinct
    rw [List.map_append, List.nodup_append, keptNames, List.map_map] at hdistinct
    exact hdistinct.2.1
  obtain ⟨p, hp⟩ : ∃ p, s.memo.find? (fun p => p.1.same name) = some p :=
    Option.isSome_iff_exists.mp (List.find?_isSome.mpr ⟨_, hm, HelperName.same_refl name⟩)
  have hsame := List.find?_some hp
  have hslot : p.1.slot = name.slot := HelperName.same_iff.mp hsame
  obtain rfl : p = (name, v) := List.inj_on_of_nodup_map hnodup (List.mem_of_find?_eq_some hp) hm hslot
  rw [kept?, hp]
  rfl

theorem Later.kept? (h : s.Later s') (hv : s.kept? name = some v) : s'.kept? name = some v := by
  obtain ⟨new, hnew⟩ := h.memo
  obtain ⟨p, hp, rfl⟩ := Option.map_eq_some_iff.mp hv
  rw [Scope.kept?, ← hnew, List.find?_append, hp]
  rfl

end Scope

theorem Scope.Settles.of_kept? {s : Scope (Value U)} {name : HelperName (Value U)} {v : Value U}
    (hv : s.kept? name = some v) : s.Settles name := by
  have hmem := mt Scope.kept?_eq_none_iff.mpr (by simp [hv] : s.kept? name ≠ none)
  unfold Settles
  rw [List.map_append]
  exact List.mem_append_right _ (not_not.mp hmem)

/-! ## What is noted of a lookup -/

theorem Start.Follows.heeded {heeds : Heed U} {b : Start U} (h : b.Follows heeds) : b.Follows Heed.all := by
  unfold Follows at h ⊢
  split at h
  · rfl
  · exact h

theorem Surface.definitionsFor_beside (sf : Surface U S) {f : Forest (Value U)} {g : Nat} {name : HelperName (Value U)}
    {s t : S} {ds : List (Definition (Value U))} (l : List (Start U))
    (hd : sf.definitionsFor f g name s = (.done ds, t)) :
    sf.beside.definitionsFor f g name (s, l) = (.done ds, (t, l)) := by
  have hname := Kinship.Name.refl name
  have hsteps := ((Twin.starting_beside Heed.all).surface sf).definitionsFor (Kinship.Chain.refl f g) hname
  obtain ⟨hend, hstate, hlog⟩ := hsteps l s (s, l) ⟨rfl, rfl⟩
  rcases hr : sf.beside.definitionsFor f g name (s, l) with ⟨r, p⟩
  rw [hd, hr] at hend hstate
  rw [hr] at hlog
  cases hend with
  | done hds =>
    rw [Kinship.same_definition, List.forall₂_eq_eq_eq] at hds
    obtain rfl : p = (t, l) := Prod.ext hstate hlog
    rw [hds]

namespace Engine

variable (e : Engine U (S × List (Start U))) (heeds : Heed U)

theorem lookupNoted_text (id : Nat) (x : String) :
    e.lookupNoted heeds id (.text x) = e.lookupNameNoted heeds id (.text x) := by
  funext w
  exact Action.bind_done (e.step_of_done rfl)

/-- Nothing starts after the innermost definition has run. -/
theorem starts_of_cons {w : World U (S × List (Start U))} {id : Nat} {s : Scope (Value U)} {x : String}
    {t : S × List (Start U)} {ds : List (Definition (Value U))} {d : Definition (Value U)}
    {outward : List (Definition (Value U))}
    (hd : e.surface.definitionsFor w.forest s.owner.group (.text x) w.outside = (.done ds, t))
    (hr : ds.reverse = d :: outward) :
    (e.computeNoted heeds id s (.text x) w).2.outside =
      (e.produce ⟨w.serials, id, d, outward⟩ (((w.withOutside t).counted.start (heeds id (.text x))
        ⟨⟨w.serials, id, d, outward⟩, .lookup (.text x)⟩).enter id (.text x))).2.outside := by
  rw [computeNoted_of_cons hd hr]
  rcases e.produce ⟨w.serials, id, d, outward⟩ _ with ⟨v | err | _, w'⟩
  · have hn := e.notice_pure (.resolvedHelper x ds.length) ((w'.leave id).keep id (.text x) v)
    have hdone := Action.bind_done (f := fun _ => pure v) hn
    exact (congrArg (fun r => r.2.outside) hdone).trans (World.outside_noticed _ _)
  · rfl
  · rfl

end Engine

section
variable (h : Host U S) (n : Nat) {w : World U S} {id : Nat} {s : Scope (Value U)} {x : String} {t : S}
  {ds : List (Definition (Value U))} {d : Definition (Value U)} {outward : List (Definition (Value U))}
  (hw : w.Sound) (hs : w.scope? id = some s) (hk : s.kept? (.text x) = none) (hp : s.pathFrom? (.text x) = none)
  (hd : h.toSurface.definitionsFor w.forest s.owner.group (.text x) w.outside = (.done ds, t))
  (hr : ds.reverse = d :: outward)
include hw hs hk hp hd hr

/-- While a name is looked up that is not kept yet, it is computed once. -/
theorem Host.resolves_lookup :
    Start.Resolves (h.starts (n + 1) (.ask (.lookup id (.text x))) w) id (.text x) ds.reverse := by
  let first : Start U := ⟨⟨w.serials, id, d, outward⟩, .lookup (.text x)⟩
  let inside : World U (S × List (Start U)) :=
    (((w.beside []).withOutside (t, [])).counted.start true first).enter id (.text x)
  have hlog : h.starts (n + 1) (.ask (.lookup id (.text x))) w =
      ((h.noter .all n).produce first.run inside).2.outside.2 := by
    have hmiss : (h.noter .all n).lookupNoted .all id (.text x) (w.beside []) =
        (h.noter .all n).computeNoted .all id s (.text x) (w.beside []) := by
      rw [Engine.lookupNoted_text]
      exact Engine.lookupNameNoted_of_miss hs hk hp
    refine (congrArg (fun r => r.2.outside.2) hmiss).trans (congrArg Prod.snd ?_)
    exact Engine.starts_of_cons _ _ (h.toSurface.definitionsFor_beside [] hd) hr
  -- The name is being computed from now on, so it is the same not to heed its lookups.
  have hheld : (settledFrame id (.text x)).holds inside := by
    have hdefines := h.toSurface.defines_of_definitionsFor hd (by rintro rfl; simp at hr)
    have hsound : ((w.beside ([] : List (Start U))).withOutside (t, [first])).counted.Sound := hw
    refine ⟨(scopeFrame.computes hsound hs hk hp hdefines).1, { s with resolving := s.resolving ++ [.text x] }, ?_, ?_⟩
    · show (World.enter _ id (.text x)).scope? id = _
      rw [World.scope?_enter, if_pos rfl]
      exact congrArg (Option.map _) hs
    · simp [Scope.Settles]
  have hbut := ((h.noter_but id (.text x) n).produce first.run inside hheld).1
  have hstart : Noted (.but id (.text x)) [first] ((w.withOutside t).counted.enter id (.text x)) inside := by
    refine .beside _ (fun b hb => ?_) (List.nodup_singleton _)
    obtain rfl := List.mem_singleton.mp hb
    exact Nat.lt_succ_self _
  have hcall := Kinship.Call.refl first.run
  obtain ⟨-, hafter⟩ := (h.abreast_noter (.but id (.text x)) n).produce hcall [first] _ _ hstart
  rw [← hbut] at hafter
  obtain ⟨new, hnew, hfollows⟩ := hafter.since
  rw [← hlog] at hnew
  refine ⟨?_, fun b hb => ?_, first, ?_, rfl, rfl, hr.symm, fun b hb m ho hi hm => ?_⟩
  · rw [hlog]
    exact hafter.distinct
  · rw [hnew] at hb
    rcases List.mem_append.mp hb with hb | hb
    · obtain rfl := List.mem_singleton.mp hb
      rfl
    · exact (hfollows b hb).heeded
  · rw [hnew]
    exact List.mem_append_left _ (List.mem_singleton_self first)
  · rw [hnew] at hb
    rcases List.mem_append.mp hb with hb | hb
    · exact List.mem_singleton.mp hb
    · have hf := hfollows b hb
      unfold Start.Follows at hf
      rw [ho] at hf
      simp [Heed.but, hi, hm] at hf

/-- If the innermost definition returns a value, so does the lookup, and the value is kept. -/
theorem Host.lookup_keeps {v : Value U} {w₁ : World U S}
    (hv : (h.engine n).produce ⟨w.serials, id, d, outward⟩ ((w.withOutside t).counted.enter id (.text x)) =
      (.done v, w₁)) :
    ∃ w' s', h.exec (n + 1) (.ask (.lookup id (.text x))) w = (.done v, w') ∧ w'.Sound ∧ w'.scope? id = some s' ∧
      s'.kept? (.text x) = some v := by
  have hlookup : ∃ w', (h.engine n).lookupName id (.text x) w = (.done v, w') := by
    refine ⟨((w₁.leave id).keep id (.text x) v).noticed (.resolvedHelper x ds.length), ?_⟩
    rw [(h.engine n).lookupName_of_miss hs hk hp, (h.engine n).compute_of_cons hd hr, hv]
    exact Action.bind_done (f := fun _ => pure v) ((h.engine n).notice_pure _ _)
  obtain ⟨w', hlookup⟩ := hlookup
  have a := scopeFrame.alike_engine h n
  obtain ⟨s', new, hs', hmemo⟩ := lookupName_keeps a hw hs hk hlookup
  obtain ⟨hsound, -⟩ := lookupName_later a hw id (.text x)
  rw [hlookup] at hsound
  refine ⟨w', s', ?_, hsound, hs', (hsound id s' hs').kept?_of_mem ?_⟩
  · rw [← hlookup, ← (h.engine n).lookup_text]
    rfl
  · rw [hmemo]
    exact List.mem_append_right _ (List.mem_singleton_self _)

end

/-! ## Names whose values are kept -/

section
variable (h : Host U S) (n : Nat) {w : World U S} {id : Nat} {s : Scope (Value U)} {name : HelperName (Value U)}
  {v : Value U} (p : Program U S α) (hw : w.Sound) (hs : w.scope? id = some s) (hv : s.kept? name = some v)
include hw hs hv

theorem Host.exec_kept : ∃ s', (h.exec n p w).2.scope? id = some s' ∧ s'.kept? name = some v := by
  obtain ⟨s', hs', hlater⟩ := (scopeFrame.exec_keeps h n p hw).2.scope id s hs
  exact ⟨s', hs', hlater.kept? hv⟩

/-- No lookup of the name on the scope starts a run again. -/
theorem Host.nothing_started (b : Start U) : ¬ Start.Of (h.starts n p w) id name b := by
  have hheld : (settledFrame id name).holds (w.beside ([] : List (Start U))) := ⟨hw, s, hs, .of_kept? hv⟩
  have hbut := ((h.noter_but id name n).run p.beside _ hheld).1
  obtain ⟨-, hafter⟩ := h.noted_run (.but id name) n p (.nil _ w)
  rw [← hbut] at hafter
  obtain ⟨new, hnew, hfollows⟩ := hafter.since
  have hlog : h.starts n p w = new := hnew.trans (List.nil_append new)
  intro hb
  induction hb with
  | looked hb ho hi hm =>
    have hf := hfollows _ (hlog ▸ hb)
    unfold Start.Follows at hf
    rw [ho] at hf
    simp [Heed.but, hi, hm] at hf
  | called _ _ _ ih => exact ih

end

/-! ## Definitions that all call outward -/

/-- Whatever error is raised within the second action and not caught there is raised within the first and not caught
there either. -/
def Host.Exposes (h : Host U S) (x : Run U S α) (w : World U S) (y : Run U S β) (w' : World U S) : Prop :=
  ∀ err w₀, Uncaught h err w₀ y w' → Uncaught h err w₀ x w

/-- From the run of this definition on each comes to a call of its function outward that no handler surrounds, and in
the end so does the outermost. -/
inductive Host.FallsThrough (h : Host U S) : Nat → OuterCall (Value U) → World U S → Nat → OuterCall (Value U) →
    World U S → Prop
  | outermost {n m : Nat} {c : OuterCall (Value U)} {w w' : World U S} (hc : c.outward = [])
    (hx : h.Exposes ((h.engine n).produce c) w ((h.engine m).callOuter c) w') : FallsThrough h n c w m c w'
  | onward {n m k : Nat} {c c' : OuterCall (Value U)} {d : Definition (Value U)} {rest : List (Definition (Value U))}
    {w w₁ w' : World U S} (hc : c.outward = d :: rest)
    (hx : h.Exposes ((h.engine n).produce c) w ((h.engine m).callOuter c) w₁)
    (hf : FallsThrough h m ⟨w₁.serials, c.scope, d, rest⟩ w₁.counted k c' w') : FallsThrough h n c w k c' w'

/-- That the outermost definition of a name has none to call can be put into words on the scope, as this error. -/
def Surface.TellsNoOuter (sf : Surface U S) (f : Forest (Value U)) (scope : Scope (Value U)) (name : Value U)
    (x : String) (s : S) (e : AuthoringError) : Prop :=
  ∃ path s₁ s₂ helper s₃ description s₄, sf.fullText f scope.owner.group s = (.done path, s₁) ∧
    sf.textOf name s₁ = (.done x, s₂) ∧ sf.mention name s₂ = (.done helper, s₃) ∧
    sf.mention scope.owner.description s₃ = (.done description, s₄) ∧
    e = ⟨.overrideWithoutAncestor x, some ⟨some path, helper, description, none, none⟩⟩

section
variable {h : Host U S} {n m : Nat} {c c' : OuterCall (Value U)} {w w' : World U S}

theorem Host.FallsThrough.exposes (hf : h.FallsThrough n c w m c' w') : c'.outward = [] ∧ c'.scope = c.scope ∧
    h.Exposes ((h.engine n).produce c) w ((h.engine m).callOuter c') w' := by
  induction hf with
  | outermost hc hx => exact ⟨hc, rfl, hx⟩
  | onward hc hx _ ih =>
    obtain ⟨houtward, hscope, ih⟩ := ih
    exact ⟨houtward, hscope, fun err w₀ hu => hx err w₀ (.outward hc (ih err w₀ hu))⟩

theorem Engine.callOuter_told (e : Engine U S) {s : Scope (Value U)} {x : String} {err : AuthoringError}
    (hc : c.outward = []) (hs : w.scope? c.scope = some s)
    (ht : e.surface.TellsNoOuter w.forest s c.current.name.toValue x w.outside err) :
    ∃ t, e.callOuter c w = (.raised (.authoring err), w.withOutside t) := by
  obtain ⟨path, s₁, s₂, helper, s₃, description, s₄, hpath, htext, hhelper, hdescription, rfl⟩ := ht
  have hscope : (Run.scope c.scope : Run U S _) w = (.done s, w) := by rw [Run.scope_apply, hs]
  refine ⟨s₄, ?_⟩
  unfold callOuter
  rw [hc]
  dsimp only
  rw [Action.bind_done hscope, Action.get_bind_apply]
  refine e.step_of_raised ?_
  rw [Surface.raiseIn, Action.bind_done hpath]
  have hcause := Action.bind_done (f := fun text => pure (AuthoringCause.overrideWithoutAncestor text)) htext
  refine (Action.bind_done hcause).trans ?_
  rw [Action.bind_done hhelper, Action.bind_done hdescription]
  rfl

end

/-! ## Resolutions -/

theorem Engine.answerCall_outer (e : Engine U S) {c : OuterCall (Value U)} {d : Definition (Value U)}
    {rest : List (Definition (Value U))} (hc : c.outward = d :: rest) (w : World U S) :
    e.answerCall (.outer c) [] w = e.produce ⟨w.serials, c.scope, d, rest⟩ w.counted := by
  show e.callOuter c w = _
  unfold callOuter
  rw [hc]
  rfl

/-- The target that the root describes is the outermost definition of the subject. -/
theorem Surface.definitionsFor_subject (sf : Surface U S) {f : Forest (Value U)} {g : Nat} {described : Value U}
    {s t : S} {ds : List (Definition (Value U))} (ht : f.target? g = some described)
    (hd : sf.definitionsFor f g (.text subjectName) s = (.done ds, t)) :
    ∃ path, ds = ⟨.subject, targetLevel, .target described, path⟩ :: f.declaredChain g (.text subjectName) := by
  have hsame : HelperName.same (.text subjectName : HelperName (Value U)) .subject = true := HelperName.same_refl _
  unfold definitionsFor at hd
  simp only [hsame, if_true, ht] at hd
  obtain ⟨path, s₁, -, hend⟩ := Action.bind_done_iff.mp hd
  cases hend
  exact ⟨path, rfl⟩

/-- How the definitions of a helper run when it is looked up on a scope for the first time. The starts of their runs are
noted, which makes no difference.

Each run has the same scope and a definition of the chain with those outward of it. If the runs call outward so many
times as their places tell, then each definition runs as often as the product of the numbers of calls inward of it. A
call of a function outward comes to what the run comes to that it starts. If the innermost definition returns a value,
the lookup returns it, and whatever is done later no lookup starts a run again or finds another value. If all
definitions call outward with no handler around, the lookup raises that the outermost has none to call, as far as this
can be told, and keeps no value. Of the subject that the root describes the outermost definition is given no function
outward, and the functions that the others are given all lead on. -/
theorem Host.overrides_resolved (h : Host U S) (n : Nat) {w : World U S} {id : Nat} {s : Scope (Value U)} {x : String}
    {t : S} {ds : List (Definition (Value U))} {d : Definition (Value U)} {outward : List (Definition (Value U))}
    (hw : w.Sound) (hs : w.scope? id = some s) (hk : s.kept? (.text x) = none) (hp : s.pathFrom? (.text x) = none)
    (hd : h.toSurface.definitionsFor w.forest s.owner.group (.text x) w.outside = (.done ds, t))
    (hr : ds.reverse = d :: outward) :
    let lookup : Program U S (Value U) := .ask (.lookup id (.text x))
    let l := h.starts (n + 1) lookup w
    let first : OuterCall (Value U) := ⟨w.serials, id, d, outward⟩
    let inside := (w.withOutside t).counted.enter id (.text x)
    (h.exec (n + 1) lookup w = ((h.noted (n + 1) lookup w).1, (h.noted (n + 1) lookup w).2.forget)) ∧
    (∀ b, Start.Of l id (.text x) b → b.run.scope = id ∧ ds[b.run.outward.length]? = some b.run.current ∧
      ds.take b.run.outward.length = b.run.outward.reverse) ∧
    (∀ k : Nat → Nat, (∀ b, Start.Of l id (.text x) b → b.run.outward ≠ [] →
        (Start.callsOf l b.run).length = k b.run.outward.length) →
      ∀ j < ds.length, (Start.runsOf l id (.text x) j).length = ∏ i ∈ Finset.Ico (j + 1) ds.length, k i) ∧
    (∀ m c next rest w₁, c.outward = next :: rest → (h.engine m).answerCall (.outer c) [] w₁ =
      (h.engine m).produce ⟨w₁.serials, c.scope, next, rest⟩ w₁.counted) ∧
    (∀ v w₁, (h.engine n).produce first inside = (.done v, w₁) → ∃ w', h.exec (n + 1) lookup w = (.done v, w') ∧
      ∀ m {γ : Type} (p : Program U S γ), (∀ b, ¬ Start.Of (h.starts m p w') id (.text x) b) ∧
        ∀ k, (h.engine k).lookup id (.text x) (h.exec m p w').2 = (.done v, (h.exec m p w').2)) ∧
    (∀ m c w₀ s₀ e, h.FallsThrough n first inside m c w₀ → w₀.scope? id = some s₀ →
      h.toSurface.TellsNoOuter w₀.forest s₀ c.current.name.toValue x w₀.outside e →
      e.cause = .overrideWithoutAncestor x ∧ ∃ w' s', h.exec (n + 1) lookup w = (.raised (.authoring e), w') ∧
        w'.scope? id = some s' ∧ s'.kept? (.text x) = none) ∧
    (∀ described, x = subjectName → w.forest.target? s.owner.group = some described →
      ∀ b, Start.Of l id (.text x) b →
        b.run.outward = [] ∧ (∀ m, (h.engine m).produce b.run = (h.engine m).defaultSubject described) ∨
        ∃ next rest, b.run.outward = next :: rest) := by
  intro lookup l first inside
  have hresolves : Start.Resolves l id (.text x) ds.reverse := h.resolves_lookup n hw hs hk hp hd hr
  have hlookup : h.exec (n + 1) lookup w = (h.engine n).lookupName id (.text x) w := by
    rw [← (h.engine n).lookup_text]
    rfl
  refine ⟨?_, fun b hb => ?_, fun k hcalls j hj => ?_, ?_, fun v w₁ hv => ?_, ?_, ?_⟩
  · obtain ⟨hend, hafter⟩ := h.noted_run .all (n + 1) lookup (.nil _ w)
    exact Prod.ext hend.symm hafter.forget.symm
  · exact ⟨(hresolves.of_chain hb).1, hresolves.of_definitions rfl hb⟩
  · have hlength : ds.reverse.length = ds.length := List.length_reverse
    rw [← hlength]
    exact hresolves.length_runsOf hcalls (hlength ▸ hj)
  · exact fun m c next rest w₁ hc => (h.engine m).answerCall_outer hc w₁
  · obtain ⟨w', s', hdone, hsound, hs', hkept⟩ := h.lookup_keeps n hw hs hk hp hd hr hv
    refine ⟨w', hdone, fun m γ p => ⟨h.nothing_started m p hsound hs' hkept, fun k => ?_⟩⟩
    obtain ⟨s₂, hs₂, hkept₂⟩ := h.exec_kept m p hsound hs' hkept
    rw [(h.engine k).lookup_text]
    exact (h.engine k).lookupName_of_kept? hs₂ hkept₂
  · intro m c w₀ s₀ e hf hs₀ ht
    obtain ⟨houtward, hscope, hx⟩ := hf.exposes
    obtain ⟨t₀, hraise⟩ := (h.engine m).callOuter_told houtward (hscope ▸ hs₀) ht
    have huncaught : Uncaught h (.authoring e) _ ((h.engine n).lookupName id (.text x)) w :=
      .lookedUp hs hk hp hd hr (hx _ _ (.here hraise))
    obtain ⟨w', hraised, -⟩ := huncaught.raised rfl
    have hds : ds ≠ [] := by rintro rfl; simp at hr
    obtain ⟨s', hs', hnone⟩ := lookupName_raised_within (scopeFrame.alike_engine h n) hw hs hk hp hd hds hraised
    obtain ⟨path, s₁, s₂, helper, s₃, description, s₄, -, -, -, -, rfl⟩ := ht
    exact ⟨rfl, w', s', hlookup.trans hraised, hs', hnone⟩
  · rintro described rfl htarget b hb
    cases houtward : b.run.outward with
    | cons next rest => exact .inr ⟨next, rest, rfl⟩
    | nil =>
      obtain ⟨path, rfl⟩ := h.toSurface.definitionsFor_subject htarget hd
      obtain ⟨hcurrent, -⟩ := hresolves.of_definitions rfl hb
      rw [houtward] at hcurrent
      obtain hcurrent := Option.some.inj hcurrent
      refine .inl ⟨rfl, fun m => ?_⟩
      unfold Engine.produce
      rw [← hcurrent]

/-! ## Three groups in one another -/

/-- Definitions that call outward twice, once, or not at all, and one that calls whatever its function outward
returned. -/
def stairCode : NumberedCode := fun u args =>
  match u, args with
  | 1, [_, outer] => .ask (.call outer [])
  | 2, [_, outer] => .bind (.ask (.call outer [])) fun _ => .ask (.call outer [])
  | 3, [_, outer] => .pure outer
  | 4, [_, outer] => .bind (.ask (.call outer [])) fun f => .ask (.call f [])
  | u, _ => .pure (.user (u + 5))

/-- Three groups in one another, the innermost so described, each with a definition of two helpers, and the outermost
with the only one of a third. -/
def Forest.stairs (description : Value Nat) : Forest (Value Nat) :=
  let tables := #[helperTable [numberedHelper "a" 0 0, numberedHelper "b" 0 0, numberedHelper "c" 0 1],
    helperTable [numberedHelper "a" 1 1, numberedHelper "b" 1 3],
    helperTable [numberedHelper "a" 2 2, numberedHelper "b" 2 4]]
  ⟨#[⟨.text "root", none, none, true, [.group 1], tables[0]⟩,
    ⟨.text "middle", some 0, none, true, [.group 2], tables[1]⟩,
    ⟨description, some 1, none, true, [], tables[2]⟩]⟩

/-- The world in which an example of the innermost group has begun. -/
def stairWorld (description : Value Nat) : World Nat Unit :=
  { World.initial () false with
    forest := .stairs description
    scopes := #[.fresh ⟨.absent, 2, 0, none, .absent⟩ .standard] }

theorem sound_stairWorld (description : Value Nat) : (stairWorld description).Sound := by
  intro id s hs
  cases id with
  | zero =>
    obtain rfl : Scope.fresh _ _ = s := Option.some.inj hs
    exact .fresh _ _ _
  | succ id => cases hs

/-- A run of the definition of the first helper with so many others outward of it. -/
def stairRun (serial j : Nat) : OuterCall (Value Nat) :=
  ⟨serial, 0, numberedHelper "a" j j, ((List.range j).map fun i : Nat => numberedHelper "a" i i).reverse⟩

/-- The starts of the runs in the first lookup of that helper, in order. -/
def stairStarts : List (Start Nat) :=
  [⟨stairRun 0 2, .lookup (.text "a")⟩, ⟨stairRun 1 1, .outward (stairRun 0 2)⟩,
    ⟨stairRun 2 0, .outward (stairRun 1 1)⟩, ⟨stairRun 3 1, .outward (stairRun 0 2)⟩,
    ⟨stairRun 4 0, .outward (stairRun 3 1)⟩]

/-- The run of the helper that has one definition. -/
def loneRun : OuterCall (Value Nat) := ⟨0, 0, numberedHelper "c" 0 1, []⟩

theorem fallsThrough_lone (w : World Nat Unit) :
    (Host.numbers (fun u => u == 9) stairCode).FallsThrough 4 loneRun w 3 loneRun w :=
  .outermost rfl fun _ _ hu => .offered (.called (.program (.asked hu)))

/-- The outermost definition runs twice, and then no more. A definition that has none to call raises, when it calls. -/
theorem overrides_resolved_stairs :
    let h := Host.numbers (fun u => u == 9) stairCode
    let w := stairWorld (.text "inner")
    h.starts 5 (.ask (.lookup 0 (.text "a"))) w = stairStarts ∧
    (Start.runsOf stairStarts 0 (.text "a") 0).length = 2 ∧
    (∃ w', h.exec 5 (.ask (.lookup 0 (.text "a"))) w = (.done (.user 5), w') ∧
      ∀ b, ¬ Start.Of (h.starts 5 (.ask (.lookup 0 (.text "a"))) w') 0 (.text "a") b) ∧
    ∃ e w', h.exec 5 (.ask (.lookup 0 (.text "c"))) w = (.raised (.authoring e), w') ∧
      e.cause = .overrideWithoutAncestor "c" := by
  intro h w
  have hstarts : h.starts 5 (.ask (.lookup 0 (.text "a"))) w = stairStarts := rfl
  have hscope : w.scope? 0 = some (.fresh ⟨.absent, 2, 0, none, .absent⟩ .standard) := rfl
  have hchain : h.toSurface.definitionsFor w.forest 2 (.text "a") w.outside =
      (.done [numberedHelper "a" 0 0, numberedHelper "a" 1 1, numberedHelper "a" 2 2], ()) := rfl
  have hlone : h.toSurface.definitionsFor w.forest 2 (.text "c") w.outside = (.done [numberedHelper "c" 0 1], ()) := rfl
  obtain ⟨-, -, hcount, -, hvalue, -⟩ := h.overrides_resolved 4 (sound_stairWorld _) hscope rfl rfl hchain rfl
  obtain ⟨-, -, -, -, -, hraises, -⟩ := h.overrides_resolved 4 (sound_stairWorld _) hscope rfl rfl hlone rfl
  refine ⟨hstarts, ?_, ?_, ?_⟩
  · -- So many calls outward as its place tells has each run of the starts.
    have hcalls (b : Start Nat) (hb : Start.Of stairStarts 0 (.text "a") b) (hne : b.run.outward ≠ []) :
        (Start.callsOf stairStarts b.run).length = b.run.outward.length := by
      have hmem := hb.mem
      simp only [stairStarts, List.mem_cons, List.not_mem_nil, or_false] at hmem
      rcases hmem with rfl | rfl | rfl | rfl | rfl <;> simp_all [Start.callsOf, stairStarts, stairRun, List.range_succ]
    rw [hstarts] at hcount
    exact (hcount (fun j => j) hcalls 0 (by decide)).trans (by decide)
  · obtain ⟨w', hdone, hlater⟩ := hvalue (.user 5) _ rfl
    exact ⟨w', hdone, fun b => (hlater 5 _).1 b⟩
  · obtain ⟨hcause, w', s', hraised, -⟩ := hraises _ _ _ _ _ (fallsThrough_lone _) rfl
      ⟨_, (), (), _, (), _, (), rfl, rfl, rfl, rfl, rfl⟩
    exact ⟨_, w', hraised, hcause⟩

/-- A function outward that outlives its run is called when no run of its definition calls outward, and the outermost
definition runs all the same. What a definition that has none to call raises is that of the description, if this cannot
be shown. -/
theorem overrides_astray :
    let h := Host.numbers (fun u => u == 9) stairCode
    let told := stairWorld (.text "inner")
    let hidden := bareWorld (.user 9) 1
    let b : Program Nat Unit (Value Nat) := .ask (.lookup 0 (.text "b"))
    let c : Program Nat Unit (Value Nat) := .ask (.lookup 0 (.text "c"))
    ((∀ n v f w, h.starts n (h.call 3 [v, f]) w = []) ∧ (h.exec 5 b told).1 = .done (.user 5) ∧
      (h.starts 5 b told).map (fun s => (s.run.current.producer, s.run.outward.length)) =
        [(.callable (.user 4), 2), (.callable (.user 3), 1), (.callable (.user 0), 0)]) ∧
    h.toSurface.definitionsFor hidden.forest 1 (.text "c") () = (.done [loneRun.current], ()) ∧
    (∃ w, h.FallsThrough 4 loneRun (hidden.counted.enter 0 (.text "c")) 3 loneRun w) ∧
    (h.exec 5 c hidden).1 = .raised (.thrown (.user 9)) := by
  intro h told hidden b c
  refine ⟨⟨fun n v f w => ?_, rfl, rfl⟩, rfl, ⟨_, fallsThrough_lone _⟩, rfl⟩
  cases n <;> rfl

end Exemplar

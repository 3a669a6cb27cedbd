import Exemplar.Proofs.Frame
import Exemplar.Proofs.Numbers
import Mathlib.Data.List.Dedup
import Mathlib.Data.List.Perm.Subperm
import Mathlib.Data.List.TakeWhile

/-!
# Exemplar.Proofs.Scopes — the names under computation and the values kept

At every moment of every run the names that a scope computes differ from each other and from the names whose values
it keeps, and each of all these has a definition. So they are never more than the names there are. Looking up a helper
leaves the names under computation as they were, however it ends; the values kept only ever grow at the end.

Nothing is assumed of the code that a specification brings: it may catch any error and look up other names half way,
and may hold on to the function outward and call it when the lookup that handed it out has long ended. One fact alone
has an exception. A lookup that raises has kept nothing under its name, unless code of the specification was called for
words that the lookup needs of its place: that code can look the same name up, which is not under computation at the
time. Such words are needed for the subject, of which the root may have a definition that tells the place it comes from,
and for a name without definitions, which matters only where one may still be declared.

* `scopeFrame`: the frame of these facts.
* `Surface.CallsForWords`: the exception; `Surface.not_callsForWords_of_closedAbove` and
  `Surface.Inert.not_callsForWords` tell where there is none.
* `lookupName_later`, `lookupName_after`, `lookupName_keeps`, `lookupName_raised`: what one lookup does to its scope.
* `Host.Reached`, `Host.scopes_in_order`: the facts for every world that can be reached, and every moment in between.
-/

namespace Exemplar

variable {U S V α : Type}

/-! ## Single scopes -/

namespace Scope

/-- The names of the values kept. -/
def keptNames (s : Scope V) : List (HelperName V) := s.memo.map (·.1)

/-- The names under computation and those of the values kept are all different, and all have definitions. -/
structure Sound (f : Forest V) (s : Scope V) : Prop where
  distinct : ((s.resolving ++ s.keptNames).map HelperName.slot).Nodup
  defined (n : HelperName V) : n ∈ s.resolving ++ s.keptNames → f.Defines s.owner.group n

/-- The scope some time later, when the same names are under computation again. -/
structure Later (s s' : Scope V) : Prop where
  owner : s'.owner = s.owner
  evaluator : s'.evaluator = s.evaluator
  resolving : s'.resolving = s.resolving
  memo : s.memo <+: s'.memo
  successes : s.successes <+: s'.successes

theorem Later.refl (s : Scope V) : s.Later s := ⟨rfl, rfl, rfl, List.prefix_rfl, List.prefix_rfl⟩

theorem Later.trans {s s' s'' : Scope V} (h : s.Later s') (h' : s'.Later s'') : s.Later s'' :=
  ⟨h'.owner.trans h.owner, h'.evaluator.trans h.evaluator, h'.resolving.trans h.resolving, h.memo.trans h'.memo,
    h.successes.trans h'.successes⟩

theorem kept?_eq_none_iff {s : Scope V} {name : HelperName V} :
    s.kept? name = none ↔ name.slot ∉ s.keptNames.map HelperName.slot := by
  simp [kept?, keptNames, List.find?_eq_none, HelperName.same, HelperName.slot]

theorem pathFrom?_eq_none_iff {s : Scope V} {name : HelperName V} :
    s.pathFrom? name = none ↔ name.slot ∉ s.resolving.map HelperName.slot := by
  have hpath : s.pathFrom? name = none ↔ s.resolving.dropWhile (fun n => !n.same name) = [] := by
    unfold pathFrom?
    split <;> simp_all
  rw [hpath, List.dropWhile_eq_nil_iff]
  simp [HelperName.same, HelperName.slot, imp_iff_not_or]

namespace Sound

variable {f f' : Forest V} {s s' : Scope V}

theorem fresh (f : Forest V) (x : Example V) (evaluator : Evaluator V) : (Scope.fresh x evaluator).Sound f :=
  ⟨List.nodup_nil, by simp [Scope.fresh, keptNames]⟩

theorem grows (h : s.Sound f) (hf : f.Grows f') : s.Sound f' :=
  ⟨h.distinct, fun n hn => hf.defines (h.defined n hn)⟩

/-- No more names are under computation than there are names with a definition. -/
theorem length_le (h : s.Sound f) :
    s.resolving.length ≤ ((f.namesFor s.owner.group).map HelperName.slot).dedup.length := by
  have hdistinct : (s.resolving.map HelperName.slot).Nodup := by
    have hd := h.distinct
    rw [List.map_append] at hd
    exact (List.nodup_append.mp hd).1
  have hsub : s.resolving.map HelperName.slot ⊆ ((f.namesFor s.owner.group).map HelperName.slot).dedup := by
    intro slot hslot
    obtain ⟨n, hn, rfl⟩ := List.mem_map.mp hslot
    exact List.mem_dedup.mpr (Forest.defines_iff.mp (h.defined n (List.mem_append_left _ hn)))
  have hlen := (hdistinct.subperm hsub).length_le
  rwa [List.length_map] at hlen

/-- A name that is neither computed nor kept may be computed, if there is something to compute it from. -/
theorem enter (h : s.Sound f) {name : HelperName V} (hk : s.kept? name = none) (hp : s.pathFrom? name = none)
    (hd : f.Defines s.owner.group name) : Sound f { s with resolving := s.resolving ++ [name] } := by
  rw [kept?_eq_none_iff] at hk
  rw [pathFrom?_eq_none_iff] at hp
  have hperm : (s.resolving ++ [name] ++ s.keptNames).Perm (name :: (s.resolving ++ s.keptNames)) := by
    rw [List.append_assoc, List.singleton_append]
    exact List.perm_middle
  refine ⟨?_, fun n hn => ?_⟩
  · show ((s.resolving ++ [name] ++ s.keptNames).map HelperName.slot).Nodup
    rw [(hperm.map _).nodup_iff, List.map_cons, List.nodup_cons, List.map_append, List.mem_append, ← List.map_append]
    exact ⟨fun hmem => hmem.elim hp hk, h.distinct⟩
  · rcases List.mem_cons.mp (hperm.mem_iff.mp hn) with rfl | hn
    · exact hd
    · exact h.defined n hn

/-- The name computed last may be left again. -/
theorem leave (h : s'.Sound f) : Sound f { s' with resolving := s'.resolving.dropLast } := by
  have hsub : (s'.resolving.dropLast ++ s'.keptNames).Sublist (s'.resolving ++ s'.keptNames) :=
    (List.dropLast_sublist _).append_right _
  exact ⟨h.distinct.sublist (hsub.map _), fun n hn => h.defined n (hsub.subset hn)⟩

/-- The name computed last may be left for its value. -/
theorem keep (h : s'.Sound f) {names : List (HelperName V)} {name : HelperName V} (hr : s'.resolving = names ++ [name])
    (v : V) : Sound f { s' with resolving := s'.resolving.dropLast, memo := s'.memo ++ [(name, v)] } := by
  have hperm : (s'.resolving.dropLast ++ (s'.memo ++ [(name, v)]).map (·.1)).Perm (s'.resolving ++ s'.keptNames) := by
    rw [hr, List.dropLast_concat, List.map_append, List.append_assoc]
    exact List.perm_append_comm.append_left names
  refine ⟨?_, fun n hn => h.defined n (hperm.mem_iff.mp hn)⟩
  show ((s'.resolving.dropLast ++ (s'.memo ++ [(name, v)]).map (·.1)).map HelperName.slot).Nodup
  rw [(hperm.map _).nodup_iff]
  exact h.distinct

/-- A name under computation has no value kept. -/
theorem kept?_of_computing (h : s.Sound f) {n name : HelperName V} (hn : n ∈ s.resolving) (hs : n.slot = name.slot) :
    s.kept? name = none := by
  have hdistinct := h.distinct
  rw [List.map_append, List.nodup_append] at hdistinct
  exact kept?_eq_none_iff.mpr fun hmem => hdistinct.2.2 _ (List.mem_map_of_mem hn) _ hmem hs

/-- A name without definitions has no value kept. -/
theorem kept?_of_undefined (h : s.Sound f) {name : HelperName V} (hd : ¬f.Defines s.owner.group name) :
    s.kept? name = none := by
  refine kept?_eq_none_iff.mpr fun hmem => hd ?_
  obtain ⟨n, hn, hslot⟩ := List.mem_map.mp hmem
  rw [Forest.defines_iff, ← hslot]
  exact Forest.defines_iff.mp (h.defined n (List.mem_append_right _ hn))

end Sound
end Scope

/-! ## Worlds -/

namespace World

/-- Every scope is sound. -/
def Sound (w : World U S) : Prop := ∀ id s, w.scope? id = some s → s.Sound w.forest

/-- A world some time later, when each scope computes the same names again. -/
structure Later (w w' : World U S) : Prop where
  forest : w.forest.Grows w'.forest
  scope (id : Nat) (s : Scope (Value U)) : w.scope? id = some s → ∃ s', w'.scope? id = some s' ∧ s.Later s'

variable {w w' w'' : World U S}

theorem sound_initial (s : S) (verbose : Bool) : (World.initial s verbose : World U S).Sound := by
  intro id s' hs
  simp [scope?, World.initial] at hs

/-- Worlds with the same scopes and the same forest are equally sound. -/
theorem Sound.congr (h : w.Sound) (hf : w'.forest = w.forest) (hs : ∀ id, w'.scope? id = w.scope? id) : w'.Sound :=
  fun id s hid => hf ▸ h id s (hs id ▸ hid)

theorem Later.of_eq (hf : w'.forest = w.forest) (hs : ∀ id, w'.scope? id = w.scope? id) : w.Later w' :=
  ⟨hf ▸ .refl _, fun id s hid => ⟨s, (hs id).trans hid, .refl s⟩⟩

theorem Later.trans (h : w.Later w') (h' : w'.Later w'') : w.Later w'' := by
  refine ⟨h.forest.trans h'.forest, fun id s hs => ?_⟩
  obtain ⟨s', hs', hl⟩ := h.scope id s hs
  obtain ⟨s'', hs'', hl'⟩ := h'.scope id s' hs'
  exact ⟨s'', hs'', hl.trans hl'⟩

/-- A change of one scope that is found sound again is a change to a sound world. -/
theorem Sound.updateScope (h : w.Sound) {id : Nat} {change : Scope (Value U) → Scope (Value U)}
    (hc : ∀ s, w.scope? id = some s → (change s).Sound w.forest) : (w.updateScope id change).Sound := by
  intro i s' hs'
  rw [scope?_updateScope] at hs'
  split at hs'
  · next hi =>
    obtain ⟨s, hs, rfl⟩ := Option.map_eq_some_iff.mp hs'
    exact hc s (hi ▸ hs)
  · exact h i s' hs'

theorem Later.updateScope {id : Nat} {change : Scope (Value U) → Scope (Value U)} (hf : w.forest.Grows w'.forest)
    (hne : ∀ i s, i ≠ id → w.scope? i = some s → ∃ s', w'.scope? i = some s' ∧ s.Later s')
    (hid : ∀ s, w.scope? id = some s → ∃ s', w'.scope? id = some s' ∧ s.Later (change s')) :
    w.Later (w'.updateScope id change) := by
  refine ⟨hf, fun i s hs => ?_⟩
  rw [scope?_updateScope]
  split
  · next hi =>
    subst hi
    obtain ⟨s', hs', hl⟩ := hid s hs
    exact ⟨change s', by rw [hs']; rfl, hl⟩
  · next hi => exact hne i s (Ne.symm hi) hs

end World

/-! ## The frame -/

open World in
/-- The names under computation and the values kept, as a frame. -/
def scopeFrame : Frame U S where
  holds := World.Sound
  leads w w' := (w.Sound → w'.Sound) ∧ w.Later w'
  refl w := ⟨id, .of_eq rfl fun _ => rfl⟩
  trans h h' := ⟨h'.1 ∘ h.1, h.2.trans h'.2⟩
  stays hw h := h.1 hw
  outside w s := ⟨fun h => h.congr rfl fun _ => rfl, .of_eq rfl fun _ => rfl⟩
  tells w e _ := ⟨fun h => h.congr rfl fun _ => rfl, .of_eq rfl fun _ => rfl⟩
  counts w := ⟨fun h => h.congr rfl fun _ => rfl, .of_eq rfl fun _ => rfl⟩
  recorders w r _ := ⟨fun h => h.congr rfl fun _ => rfl, .of_eq rfl fun _ => rfl⟩
  declares {w f} _ hd :=
    ⟨fun h id s hs => (h id s hs).grows hd.grows, hd.grows, fun id s hs => ⟨s, hs, .refl s⟩⟩
  succeeds w id v _ _ := by
    refine ⟨fun h => h.updateScope fun s hs => ⟨(h id s hs).distinct, (h id s hs).defined⟩, ?_⟩
    refine .updateScope (.refl _) (fun i s _ hs => ⟨s, hs, .refl s⟩) fun s hs => ⟨s, hs, ?_⟩
    exact ⟨rfl, rfl, rfl, List.prefix_rfl, List.prefix_append _ _⟩
  opens w x evaluator := by
    refine ⟨fun h id s hs => ?_, .refl _, fun id s hs => ⟨s, ?_, .refl s⟩⟩
    · rw [scope?_opened] at hs
      split at hs
      · exact Option.some.inj hs ▸ Scope.Sound.fresh _ _ _
      · exact h id s hs
    · rw [scope?_opened, if_neg, hs]
      rintro rfl
      simp [World.scope?] at hs
  computes {w id s name} hw hs hk hp hd := by
    have henter : (w.enter id name).Sound := by
      refine Sound.updateScope hw fun s' hs' => ?_
      obtain rfl : s' = s := Option.some.inj (hs'.symm.trans hs)
      exact (hw id s' hs').enter hk hp hd
    refine ⟨henter, fun w' ⟨hsound, hlater⟩ => ?_⟩
    have hw' := hsound henter
    have hother (i : Nat) (t : Scope (Value U)) (hi : i ≠ id) (ht : w.scope? i = some t) :
        ∃ t', w'.scope? i = some t' ∧ t.Later t' := by
      refine hlater.scope i t ?_
      rw [scope?_enter, if_neg (Ne.symm hi), ht]
    obtain ⟨s', hs', hss⟩ := hlater.scope id { s with resolving := s.resolving ++ [name] } (by
      rw [scope?_enter, if_pos rfl, hs]
      rfl)
    have hown (t : Scope (Value U)) (ht : w.scope? id = some t) : t = s := Option.some.inj (ht.symm.trans hs)
    have hgrow : w.forest.Grows w'.forest := hlater.forest
    have hlast : s'.resolving.dropLast = s.resolving := by
      rw [hss.resolving]
      exact List.dropLast_concat
    refine ⟨⟨fun _ => hw'.updateScope fun t ht => (hw' id t ht).leave, ?_⟩, fun v => ⟨fun _ => ?_, ?_⟩⟩
    · refine .updateScope hgrow hother fun t ht => ⟨s', hs', ?_⟩
      obtain rfl := hown t ht
      exact ⟨hss.owner, hss.evaluator, hlast, hss.memo, hss.successes⟩
    · refine Sound.updateScope (hw'.updateScope fun t ht => (hw' id t ht).leave) fun t ht => ?_
      rw [scope?_updateScope, if_pos rfl, hs'] at ht
      obtain rfl := Option.some.inj ht
      exact (hw' id s' hs').keep hss.resolving v
    · refine .updateScope hgrow (fun i t hi ht => ?_) fun t ht => ?_
      · rw [World.leave, scope?_updateScope, if_neg (Ne.symm hi)]
        exact hother i t hi ht
      · obtain rfl := hown t ht
        rw [World.leave, scope?_updateScope, if_pos rfl, hs']
        exact ⟨_, rfl, hss.owner, hss.evaluator, hlast, hss.memo.trans (List.prefix_append _ _), hss.successes⟩

theorem scopeFrame_open : (scopeFrame : Frame U S).Open where
  roots _ _ _ := ⟨fun h id s hs => (h id s hs).grows (.addGroup _), .addGroup _, fun _ s hs => ⟨s, hs, .refl s⟩⟩
  writes _ _ _ := ⟨fun h => h.congr rfl fun _ => rfl, .of_eq rfl fun _ => rfl⟩

/-! ## Texts that run no code -/

/-- The computation never leaves its error to a function that is to be called for it. -/
def Step.Quiet (x : Step U S α) : Prop := ∀ s f q s', x s ≠ (.raised (.unshowable f q), s')

namespace Step.Quiet

variable {β : Type}

theorem pure (a : α) : (Pure.pure a : Step U S α).Quiet := by
  intro s f q s' h
  simp [Action.pure_apply] at h

theorem raise (err : Exn (Value U)) : (Step.raise err : Step U S α).Quiet := by
  intro s f q s' h
  simp [Step.raise, Action.raise_apply] at h

theorem get : @Step.Quiet U S S Action.get := by
  intro s f q s' h
  simp [Action.get_apply] at h

theorem complain (sf : Surface U S) (c : Complaint) : (sf.complain c : Step U S α).Quiet := by
  intro s f q s' h
  simp [Surface.complain] at h

theorem bind {x : Step U S α} {k : α → Step U S β} (hx : x.Quiet) (hk : ∀ a, (k a).Quiet) : (x >>= k).Quiet := by
  intro s f q s' h
  rw [Action.bind_apply] at h
  rcases hr : x s with ⟨a | r | _, t⟩
  · rw [hr] at h
    exact hk a t f q s' h
  · rw [hr] at h
    obtain ⟨rfl, rfl⟩ : r = .unshowable f q ∧ t = s' := by simpa using h
    exact hx s f q t hr
  · simp [hr] at h

theorem each {γ : Type} {f : γ → Step U S β} (hf : ∀ c, (f c).Quiet) (l : List γ) : (Surface.each f l).Quiet := by
  induction l with
  | nil => exact .pure _
  | cons c r ih => exact (hf c).bind fun b => ih.bind fun bs => .pure _

theorem sequenceOf (sf : Surface U S) {γ : Type} {f : γ → Step U S β} (hf : ∀ c, (f c).Quiet) (l : List γ) :
    (sf.sequenceOf f l).Quiet := by
  intro s g q s' h
  unfold Surface.sequenceOf at h
  rw [Action.bind_apply, Action.attempt_apply] at h
  rcases hr : Surface.each f l s with ⟨bs | (err | ⟨g', q'⟩) | _, t⟩
  · simp [hr, Action.pure_apply] at h
  · rw [hr] at h
    rcases err with _ | _ | _ | _ | v
    case thrown =>
      refine (get.bind fun t' => ?_ : Step.Quiet (do
        let s ← Action.get
        if sf.endsSequence v s then sf.complain .endedSequence else Step.raise (.thrown v))) t g q s' h
      split
      · exact .complain sf _
      · exact .raise _
    all_goals simp [Action.raise_apply] at h
  · exact each hf l s g' q' t hr
  · simp [hr] at h

theorem mention_text (sf : Surface U S) (t : String) : (sf.mention (.text t)).Quiet := by
  refine get.bind fun s => ?_
  split
  · exact (pure _).bind fun _ => .pure _
  · exact .pure _

theorem textsOf (sf : Surface U S) (vs : List (Value U)) : (sf.textsOf vs).Quiet := by
  have hgo (i : Nat) : (Surface.textsOf.go sf i vs).Quiet := by
    induction vs generalizing i with
    | nil => exact .pure _
    | cons v r ih =>
      refine get.bind fun s => ?_
      split
      · exact (ih _).bind fun _ => .pure _
      · exact .complain sf _
  exact hgo 0

end Step.Quiet

/-- No code of the specification runs while the descriptions of the groups and of the example are put into words. -/
structure Surface.Inert (sf : Surface U S) (f : Forest (Value U)) (x : Example (Value U)) : Prop where
  group (a : Nat) : (sf.groupText f a).Quiet
  own : (sf.mention x.description).Quiet

namespace Surface.Inert

variable {sf : Surface U S} {f : Forest (Value U)} {x : Example (Value U)} (h : sf.Inert f x)
include h

theorem pathPart (a : Nat) : (sf.pathPart f a).Quiet := by
  refine (h.group a).bind fun t => ?_
  split
  · exact .pure _
  · exact (h.group a).bind fun _ => .pure _

theorem fullText (id : Nat) : (sf.fullText f id).Quiet :=
  (Step.Quiet.sequenceOf sf h.pathPart _).bind fun _ => .pure _

theorem raiseIn {s : Scope (Value U)} (hs : s.owner = x) (t : String) {cause : Step U S AuthoringCause}
    (hc : cause.Quiet) : (sf.raiseIn f s (.text t) cause : Step U S α).Quiet := by
  subst hs
  exact (h.fullText _).bind fun _ => hc.bind fun _ => (Step.Quiet.mention_text sf t).bind fun _ =>
    h.own.bind fun _ => .raise _

theorem definitionsFor (g : Nat) (name : HelperName (Value U)) : (sf.definitionsFor f g name).Quiet := by
  unfold Surface.definitionsFor
  dsimp only
  split
  · split
    · exact (h.fullText _).bind fun _ => .pure _
    · exact .pure _
  · exact .pure _

end Surface.Inert

namespace Surface

variable (sf : Surface U S) {f : Forest (Value U)} {g : Nat} {x : String}

/-- The definitions of a name other than the subject are those that the groups have. -/
theorem definitionsFor_plain (hx : x ≠ subjectName) :
    sf.definitionsFor f g (.text x) = pure (f.declaredChain g (.text x)) := by
  unfold Surface.definitionsFor
  simp [HelperName.subject, HelperName.same_text_eq, hx]

theorem not_defines_of_definitionsFor {name : HelperName (Value U)} {t t' : S}
    (h : sf.definitionsFor f g name t = (.done [], t')) : ¬f.Defines g name := by
  have hp (he : (pure (f.declaredChain g name) : Step U S _) t = (.done [], t')) : f.declaredChain g name = [] := by
    simp only [Action.pure_apply, Prod.mk.injEq, Ending.done.injEq] at he
    exact he.1
  unfold Surface.definitionsFor at h
  by_cases hn : name.same .subject = true
  · simp only [hn, if_true] at h
    cases ht : f.target? g with
    | some described =>
      rw [ht] at h
      obtain ⟨path, t₁, -, h⟩ := Action.bind_done_iff.mp h
      simp [Action.pure_apply] at h
    | none =>
      rw [ht] at h
      simp [Forest.Defines, hp h, ht]
  · simp only [hn] at h
    simp [Forest.Defines, hp h, hn]

/-- Tells that a name has no definitions. -/
def tellUndefined (f : Forest (Value U)) (scope : Scope (Value U)) (name : HelperName (Value U)) :
    Step U S (Value U) :=
  sf.raiseIn f scope name.toValue do
    if name.same .subject then pure .undefinedTarget
    else
      let text ← sf.textOf name.toValue
      pure (.undefinedHelper text)

/-- For words that a lookup of the name needs the function `f` of the specification is called, in the state `t`: to
gather the definitions, or, where a group above the example is open, to tell that there are none. -/
def CallsForWords (w : World U S) (s : Scope (Value U)) (name : HelperName (Value U)) (f : Value U) (t : S) : Prop :=
  ∃ q, sf.definitionsFor w.forest s.owner.group name w.outside = (.raised (.unshowable f q), t) ∨
    ¬w.forest.ClosedAbove s.owner.group ∧ ∃ t₀,
      sf.definitionsFor w.forest s.owner.group name w.outside = (.done [], t₀) ∧
      sf.tellUndefined w.forest s name t₀ = (.raised (.unshowable f q), t)

/-- In a closed tree no words are needed but for the subject. -/
theorem not_callsForWords_of_closedAbove {w : World U S} {s : Scope (Value U)} {v : Value U} {t : S}
    (hx : x ≠ subjectName) (hc : w.forest.ClosedAbove s.owner.group) : ¬sf.CallsForWords w s (.text x) v t := by
  rintro ⟨q, h | ⟨ho, -⟩⟩
  · rw [sf.definitionsFor_plain hx] at h
    exact Step.Quiet.pure _ _ _ _ _ h
  · exact ho hc

theorem Inert.not_callsForWords {sf : Surface U S} {w : World U S} {s : Scope (Value U)} {v : Value U} {t : S}
    (h : sf.Inert w.forest s.owner) (x : String) : ¬sf.CallsForWords w s (.text x) v t := by
  rintro ⟨q, hd | ⟨-, t₀, -, ht⟩⟩
  · exact h.definitionsFor _ _ _ _ _ _ hd
  · refine (h.raiseIn rfl x ?_ : (sf.tellUndefined w.forest s (.text x)).Quiet) _ _ _ _ ht
    split
    · exact .pure _
    · exact (Step.Quiet.pure _).bind fun _ => .pure _

end Surface

/-- A computation of the specification's own changes its state alone, or leaves what the function leaves that is called
for a value which cannot be shown. -/
theorem Engine.step_leaves (e : Engine U S) (x : Step U S α) (w : World U S) :
    (∃ t, (e.step x w).2 = w.withOutside t) ∨ ∃ f q t t', x w.outside = (.raised (.unshowable f q), t) ∧
      (e.step x w).2 = (e.call f [] (w.withOutside t)).2.withOutside t' := by
  rw [step_apply]
  rcases hr : x w.outside with ⟨b | (err | ⟨f, q⟩) | _, t⟩
  · exact .inl ⟨t, rfl⟩
  · exact .inl ⟨t, rfl⟩
  · obtain ⟨t', ht'⟩ := e.raiseFrom_snd (α := α) f q (w.withOutside t)
    exact .inr ⟨f, q, t, t', rfl, ht'⟩
  · exact .inl ⟨t, rfl⟩

/-! ## Lookups -/

section
variable {e : Engine U S} (a : scopeFrame.Alike e e) {w w' : World U S} {id : Nat} {s : Scope (Value U)}
  {name : HelperName (Value U)} (hw : w.Sound) (hs : w.scope? id = some s)
include a hw

/-- However a lookup ends, the scopes are sound after it, and each computes the names it computed before. -/
theorem lookupName_later (id : Nat) (name : HelperName (Value U)) :
    (e.lookupName id name w).2.Sound ∧ w.Later (e.lookupName id name w).2 := by
  obtain ⟨hsound, hl⟩ := (a.lookupName id name w hw).2
  exact ⟨hsound hw, hl⟩

include hs

/-- The scope while a definition runs, and just after it has. -/
theorem produce_within (hk : s.kept? name = none) (hp : s.pathFrom? name = none) {t : S}
    {ds : List (Definition (Value U))}
    (hd : e.surface.definitionsFor w.forest s.owner.group name w.outside = (.done ds, t))
    (hds : ds ≠ []) (c : OuterCall (Value U)) :
    ∃ s', (e.produce c ((w.withOutside t).counted.enter id name)).2.scope? id = some s' ∧
      s'.Sound (e.produce c ((w.withOutside t).counted.enter id name)).2.forest ∧
      s'.resolving = s.resolving ++ [name] ∧ s.memo <+: s'.memo := by
  have hcounted : (w.withOutside t).counted.Sound := hw
  have hin : ((w.withOutside t).counted.enter id name).Sound :=
    (scopeFrame.computes hcounted hs hk hp (e.surface.defines_of_definitionsFor hd hds)).1
  obtain ⟨hsound, hl⟩ := (a.produce c _ hin).2
  obtain ⟨s', hs', hss⟩ := hl.scope id { s with resolving := s.resolving ++ [name] } (by
    rw [World.scope?_enter, if_pos rfl, World.scope?_counted, World.scope?_withOutside, hs]
    rfl)
  exact ⟨s', hs', hsound hin id s' hs', hss.resolving, hss.memo⟩

/-- The values kept when the definition has ended that was run for a lookup are still kept when the lookup ends. -/
theorem lookupName_after (hk : s.kept? name = none) (hp : s.pathFrom? name = none) {t : S}
    {ds : List (Definition (Value U))}
    (hd : e.surface.definitionsFor w.forest s.owner.group name w.outside = (.done ds, t))
    {d : Definition (Value U)} {outward : List (Definition (Value U))} (hr : ds.reverse = d :: outward) :
    ∃ s₂ s', (e.produce ⟨w.serials, id, d, outward⟩ ((w.withOutside t).counted.enter id name)).2.scope? id = some s₂ ∧
      (e.lookupName id name w).2.scope? id = some s' ∧ s₂.memo <+: s'.memo := by
  have hds : ds ≠ [] := by rintro rfl; simp at hr
  have hcounted : (w.withOutside t).counted.Sound := hw
  obtain ⟨hin, hout⟩ := scopeFrame.computes hcounted hs hk hp (e.surface.defines_of_definitionsFor hd hds)
  have hwithin := (a.produce ⟨w.serials, id, d, outward⟩ _ hin).2
  obtain ⟨s₂, hs₂, -, -, -⟩ := produce_within a hw hs hk hp hd hds ⟨w.serials, id, d, outward⟩
  rw [e.lookupName_of_miss hs hk hp, e.compute_of_cons hd hr]
  rcases hc : e.produce ⟨w.serials, id, d, outward⟩ ((w.withOutside t).counted.enter id name) with ⟨v | err | _, w₂⟩
  all_goals rw [hc] at hwithin hs₂
  · have hkept := (hout w₂ hwithin).2 v
    have hscope : ((w₂.leave id).keep id name v).scope? id =
        some { s₂ with resolving := s₂.resolving.dropLast, memo := s₂.memo ++ [(name, v)] } := by
      rw [World.scope?_keep, if_pos rfl, World.scope?_leave, if_pos rfl, hs₂]
      rfl
    have hafter := ((a.notice (e.resolvedNotice name ds.length)).bind fun _ => .pure v) _ (hkept.1 hcounted)
    obtain ⟨s', hs', hl⟩ := hafter.2.2.scope id _ hscope
    exact ⟨s₂, s', hs₂, hs', (List.prefix_append _ _).trans hl.memo⟩
  all_goals
    refine ⟨s₂, { s₂ with resolving := s₂.resolving.dropLast }, hs₂, ?_, List.prefix_rfl⟩
    rw [World.scope?_leave, if_pos rfl, hs₂]
    rfl

/-- A lookup that returns a value that was not kept before has kept it, behind all others. -/
theorem lookupName_keeps (hk : s.kept? name = none) {v : Value U} (h : e.lookupName id name w = (.done v, w')) :
    ∃ s' new, w'.scope? id = some s' ∧ s'.memo = s.memo ++ new ++ [(name, v)] := by
  cases hp : s.pathFrom? name with
  | some path =>
    rw [e.lookupName_of_path hs hk hp] at h
    exact absurd h e.raiseCircular_not_done
  | none =>
    rw [e.lookupName_of_miss hs hk hp] at h
    obtain ⟨ds, t, d, outward, hd, hr⟩ := e.compute_done h
    rw [e.compute_of_cons hd hr] at h
    obtain ⟨s', hs', -, -, new, hmemo⟩ := produce_within a hw hs hk hp hd (by rintro rfl; simp at hr)
      ⟨w.serials, id, d, outward⟩
    rcases hc : e.produce ⟨w.serials, id, d, outward⟩ ((w.withOutside t).counted.enter id name)
      with ⟨v' | err | _, w₂⟩ <;> rw [hc] at h hs'
    · obtain ⟨⟨⟩, w₃, hn, hv⟩ := Action.bind_done_iff.mp h
      simp only [Action.pure_apply, Prod.mk.injEq, Ending.done.injEq] at hv
      obtain ⟨rfl, rfl⟩ := hv
      have hkept : ((w₂.leave id).keep id name v').scope? id =
          some { s' with resolving := s'.resolving.dropLast, memo := s'.memo ++ [(name, v')] } := by
        rw [World.scope?_keep, if_pos rfl, World.scope?_leave, if_pos rfl, hs']
        rfl
      refine ⟨{ s' with resolving := s'.resolving.dropLast, memo := s'.memo ++ [(name, v')] }, new, ?_, by rw [hmemo]⟩
      obtain ⟨t', rfl | ⟨m, rfl⟩⟩ := e.notice_done hn
      · exact hkept
      · exact hkept
    · simp at h
    · simp at h

/-- A lookup by a text whose definition raises has kept no value under it. -/
theorem lookupName_raised_within {x : String} {err : Exn (Value U)} (hk : s.kept? (.text x) = none)
    (hp : s.pathFrom? (.text x) = none) {t : S} {ds : List (Definition (Value U))}
    (hd : e.surface.definitionsFor w.forest s.owner.group (.text x) w.outside = (.done ds, t)) (hds : ds ≠ [])
    (h : e.lookupName id (.text x) w = (.raised err, w')) :
    ∃ s', w'.scope? id = some s' ∧ s'.kept? (.text x) = none := by
  obtain ⟨d, outward, hr⟩ := List.exists_cons_of_ne_nil (mt List.reverse_eq_nil_iff.mp hds)
  rw [e.lookupName_of_miss hs hk hp, e.compute_of_cons hd hr] at h
  obtain ⟨s', hs', hsound, hres, -⟩ := produce_within a hw hs hk hp hd hds ⟨w.serials, id, d, outward⟩
  rcases hc : e.produce ⟨w.serials, id, d, outward⟩ ((w.withOutside t).counted.enter id (.text x))
    with ⟨v' | err' | _, w₂⟩ <;> rw [hc] at h hs'
  · have hn := e.notice_pure (.resolvedHelper x ds.length) ((w₂.leave id).keep id (.text x) v')
    have hdone := Action.bind_done (f := fun _ => pure v') hn
    exact absurd (hdone.symm.trans h) (by simp [Action.pure_apply])
  · simp only [Prod.mk.injEq, Ending.raised.injEq] at h
    obtain ⟨-, rfl⟩ := h
    refine ⟨{ s' with resolving := s'.resolving.dropLast }, ?_, hsound.kept?_of_computing (n := .text x) ?_ rfl⟩
    · rw [World.scope?_leave, if_pos rfl, hs']
      rfl
    · simp [hres]
  · simp at h

/-- A lookup by a text that raises has kept no value under it, unless a function was called for its words; then the
scope is the one that the function has left. -/
theorem lookupName_raised {x : String} {err : Exn (Value U)} (hk : s.kept? (.text x) = none)
    (h : e.lookupName id (.text x) w = (.raised err, w')) :
    ∃ s', w'.scope? id = some s' ∧ (s'.kept? (.text x) = none ∨ ∃ f t,
      e.surface.CallsForWords w s (.text x) f t ∧ (e.call f [] (w.withOutside t)).2.scope? id = some s') := by
  have hlater := lookupName_later a hw id (.text x)
  rw [h] at hlater
  obtain ⟨hsound, hl⟩ := hlater
  obtain ⟨s', hs', hss⟩ := hl.scope id s hs
  by_cases hp : s.pathFrom? (.text x) = none
  · have hmiss := e.lookupName_of_miss hs hk hp
    rcases hd : e.surface.definitionsFor w.forest s.owner.group (.text x) w.outside with ⟨ds | (r | ⟨f, q⟩) | _, t⟩
    · by_cases hds : ds = []
      · subst hds
        by_cases hc : w.forest.ClosedAbove s.owner.group
        · -- Nothing can be declared above the example, so the name has no definitions to the end.
          refine ⟨s', hs', .inl ((hsound id s' hs').kept?_of_undefined fun hdef => ?_)⟩
          rw [hss.owner] at hdef
          exact e.surface.not_defines_of_definitionsFor hd (hl.forest.defines_of_closedAbove hc hdef)
        · have hstep : e.lookupName id (.text x) w = e.step (e.surface.tellUndefined w.forest s (.text x))
            (w.withOutside t) := hmiss.trans (e.compute_of_nil hd)
          rcases e.step_leaves (e.surface.tellUndefined w.forest s (.text x)) (w.withOutside t) with
            ⟨t', ht'⟩ | ⟨f, q, t', t'', htell, ht''⟩
          · rw [← hstep, h] at ht'
            obtain rfl : w' = w.withOutside t' := ht'
            exact ⟨s, hs, .inl hk⟩
          · rw [← hstep, h] at ht''
            refine ⟨s', hs', .inr ⟨f, t', ⟨q, .inr ⟨hc, t, hd, htell⟩⟩, ?_⟩⟩
            exact (congrArg (World.scope? · id) ht'').symm.trans hs'
      · obtain ⟨s', hs', hnone⟩ := lookupName_raised_within a hw hs hk hp hd hds h
        exact ⟨s', hs', .inl hnone⟩
    · have hcompute : e.compute id s (.text x) w = (.raised r, w.withOutside t) := by
        rw [Engine.compute, Action.get_bind_apply, Action.bind_raised (e.step_of_raised hd)]
      rw [hmiss, hcompute] at h
      exact ⟨s, (congrArg (fun r => r.2.scope? id) h).symm.trans hs, .inl hk⟩
    · have hstep : e.lookupName id (.text x) w = e.raiseFrom f q (w.withOutside t) := by
        rw [hmiss, Engine.compute, Action.get_bind_apply, Action.bind_apply, e.step_apply, hd]
        exact congrFun (e.raiseFrom_bind f q _) (w.withOutside t)
      obtain ⟨t', ht'⟩ := e.raiseFrom_snd (α := Value U) f q (w.withOutside t)
      rw [← hstep, h] at ht'
      exact ⟨s', hs', .inr ⟨f, t, ⟨q, .inl hd⟩, (congrArg (World.scope? · id) ht').symm.trans hs'⟩⟩
    · have hx :
          e.step (e.surface.definitionsFor w.forest s.owner.group (.text x)) w = (.exhausted, w.withOutside t) := by
        rw [Engine.step_apply, hd]
      rw [hmiss, Engine.compute, Action.get_bind_apply, Action.bind_exhausted hx] at h
      simp at h
  · obtain ⟨n, hn, hslot⟩ := List.mem_map.mp (not_not.mp (mt Scope.pathFrom?_eq_none_iff.mpr hp))
    exact ⟨s', hs', .inl ((hsound id s' hs').kept?_of_computing (hss.resolving ▸ hn) hslot)⟩

end

/-! ## Every run -/

theorem World.sound_of_reached {h : Host U S} {w : World U S} (hw : h.Reached w) : w.Sound :=
  scopeFrame.holds_of_reached scopeFrame_open World.sound_initial hw

/-- The block under 1 declares helpers and an example. The producer under 3 catches the error of `b`, whose producer
asks for the name around it, catches the error of that too, asks for `c` and then raises. The subject's producer raises
the subject that the root supplies. -/
def caughtCode : NumberedCode
  | 1, [.builder g] => do
    Program.ask (.declare g (.helper (.text "a") (.user 3)))
    Program.ask (.declare g (.helper (.text "b") (.user 4)))
    Program.ask (.declare g (.helper (.text "c") (.user 5)))
    Program.ask (.declare g (.helper (.text subjectName) (.user 6)))
    Program.ask (.declare g (.example (.text "e") (.user 7)))
    Pure.pure .absent
  | 3, [.scope i, _] => do
    let _ ← Program.attempt (.ask (.lookup i (.text "b")))
    Pure.pure (.user 30)
  | 4, [.scope i, _] => do
    let _ ← Program.attempt (.ask (.lookup i (.text "a")))
    let _ ← Program.ask (.lookup i (.text "c"))
    Program.raise (.thrown (.user 40))
  | 6, [_, .outer c] => do
    let v ← Program.ask (.call (.outer c) [])
    Program.raise (.thrown v)
  | u, _ => Pure.pure (.user (10 * u))

/-- The host of this code. -/
def Host.caught : Host Nat Unit := .numbers (fun _ => false) caughtCode

/-- The world in which the block under 1 has declared its tree, for the number 9, and the example has begun. -/
def caughtWorld : World Nat Unit :=
  ((Host.caught.engine 5).buildGroup (.user 9) (.user 1) (.initial () false)).2.opened
    ⟨.text "e", 0, 0, some (.user 7), .absent⟩ .standard

/-- The action has come to a result. -/
def Ending.isDone {ε : Type} : Ending ε α → Bool
  | .done _ => true
  | _ => false

/-- The action has raised. -/
def Ending.isRaised {ε : Type} : Ending ε α → Bool
  | .raised _ => true
  | _ => false

theorem Ending.exists_of_isDone {ε : Type} {x : Ending ε α} (h : x.isDone = true) : ∃ a, x = .done a := by
  cases x with
  | done a => exact ⟨a, rfl⟩
  | raised _ => cases h
  | exhausted => cases h

theorem Ending.exists_of_isRaised {ε : Type} {x : Ending ε α} (h : x.isRaised = true) : ∃ e, x = .raised e := by
  cases x with
  | done _ => cases h
  | raised e => exact ⟨e, rfl⟩
  | exhausted => cases h

theorem Step.Quiet.numberText (hidden : Nat → Bool) (v : Value Nat) : (numberText hidden v).Quiet := by
  unfold Exemplar.numberText
  split
  · split
    · exact .raise _
    · exact .pure _
  all_goals exact .pure _

/-- To show a number no code is run. -/
theorem Host.inert_numbers (hidden : Nat → Bool) (code : NumberedCode) (f : Forest (Value Nat))
    (x : Example (Value Nat)) : (Host.numbers hidden code).toSurface.Inert f x where
  group a := by
    unfold Surface.groupText Surface.describe
    split
    · split
      · exact .pure _
      · exact .pure _
      · refine Step.Quiet.get.bind fun s => ?_
        split
        · exact .pure _
        · exact .pure _
        · exact .numberText hidden _
    · exact .pure _
  own := by
    refine Step.Quiet.get.bind fun s => ?_
    split
    · refine Step.Quiet.bind ?_ fun _ => .pure _
      unfold Surface.textOf
      split
      · exact .pure _
      · exact .numberText hidden _
    · exact .pure _

/-- The names under computation on the first scope and those whose values it keeps all differ. -/
def World.isOrderly (w : World Nat Unit) : Bool :=
  (w.scope? 0).all fun s => decide ((s.resolving ++ s.memo.map (·.1)).map HelperName.slot).Nodup

theorem World.Sound.isOrderly {w : World Nat Unit} (h : w.Sound) : w.isOrderly = true := by
  unfold World.isOrderly
  cases hs : w.scope? 0 with
  | none => rfl
  | some s => exact decide_eq_true (h 0 s hs).distinct

/-- While the state tells so, no number can be shown, and the function under the next number is called for the error. -/
def armedText (v : Value Nat) : Step Nat Bool String := fun armed =>
  match v with
  | .user u => if armed then (.raised (.unshowable (.user (u + 1)) false), armed) else (.done (toString u), armed)
  | .text t => (.done t, armed)
  | _ => (.done "", armed)

/-- The block under 1 declares an example. The functions under 11 and 21 let numbers be shown again and look a name up
before they raise: the subject, or a name that they have declared on the first group. -/
def armedCode : Nat → List (Value Nat) → Program Nat Bool (Value Nat)
  | 1, [.builder g] => do
    Program.ask (.declare g (.example (.text "e") (.user 2)))
    Pure.pure .absent
  | 11, [] => do
    Program.step (Action.modify fun _ => false)
    let _ ← Program.ask (.lookup 0 (.text subjectName))
    Program.raise (.thrown (.user 11))
  | 21, [] => do
    Program.step (Action.modify fun _ => false)
    Program.ask (.declare 0 (.define (.text "z") (.user 3)))
    let _ ← Program.ask (.lookup 0 (.text "z"))
    Program.raise (.thrown (.user 21))
  | u, _ => Pure.pure (.user (10 * u))

/-- The host of this code. -/
def Host.armed : Host Nat Bool where
  repr := armedText
  str := armedText
  typeName _ _ := "number"
  truthy u _ := u != 0
  callable _ _ := true
  signature? _ _ := none
  class? _ _ := none
  nameOf? _ _ := none
  ownText? _ _ := none
  decoded? _ _ := none
  items? _ _ := none
  key := armedText
  equal a b := pure (sameNumber a b)
  identical a b _ := sameNumber a b
  isInstance _ _ := pure false
  minus a _ := pure a
  magnitude a := pure a
  atMost _ _ := pure true
  kind _ _ := .ordinary
  endsSequence _ _ := false
  catches _ _ := pure true
  complaint c s := (.text c.message, s)
  call := armedCode
  contains _ _ := pure false
  matchesActual _ _ := pure (.flag true)
  traitOf _ _ := pure none
  judge _ _ negate m := pure ⟨true, .absent, none, negate, m⟩

/-- A world of one example in a group that is described by the number 10, closed and the root's own. -/
def armedWorld : World Nat Bool :=
  (((Host.armed.engine 4).buildGroup (.user 10) (.user 1) (.initial false false)).2.opened
    ⟨.text "e", 0, 0, some (.user 2), .absent⟩ .standard)

/-- A world of one example in a closed group that is described by the number 20, below an open one. -/
def openWorld : World Nat Bool :=
  World.opened { World.initial true false with
    forest := ⟨#[⟨.text "root", none, none, false, [.group 1], []⟩,
      ⟨.user 20, some 0, none, true, [.example ⟨.text "e", 1, 0, some (.user 2), .absent⟩], []⟩]⟩ }
    ⟨.text "e", 1, 0, some (.user 2), .absent⟩ .standard

end Exemplar

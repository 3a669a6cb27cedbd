import Exemplar.Proofs.Ancestry
import Exemplar.Proofs.Chronicle
import Exemplar.Proofs.Numbers

/-!
# Exemplar.Proofs.Chains — where the definitions of a name come from

What a scope finds under a name is told by the history of the tree: of each group on the way down to the example the
last definition of the name that was made there, and before them the root's target if the name is that of the subject.
A definition carries the depth and the full text of its group. The depth is the same ever after, and so is the text
where all groups on the way down are described by the same text at all times, as groups described by texts, by classes
or not at all are.

* `Forest.Sound.of_latest?`: what the last definition tells of its group.
* `Host.definitionsFor_of_history`: the definitions of a name for the examples of a group.
-/

namespace Exemplar

variable {U S : Type} {sf : Surface U S}

/-! ## Texts that stay the same -/

namespace Surface

/-- The value is described by this text at all times. -/
def DescribedBy (sf : Surface U S) (v : Value U) (t : String) : Prop := ∀ s, sf.describe v s = (.done t, s)

theorem describedBy_absent : sf.DescribedBy .absent "" := fun _ => rfl

theorem describedBy_text (t : String) : sf.DescribedBy (.text t) t := fun _ => rfl

/-- A class is described by its name. -/
theorem describedBy_class {v : Value U} {t : String} (hv : ∀ s, sf.describesTarget v s = true)
    (hc : ∀ s, ∃ c, sf.class? v s = some c ∧ c.qualifiedName = t) : sf.DescribedBy v t := by
  intro s
  obtain ⟨c, hclass, rfl⟩ := hc s
  have htarget := hv s
  simp only [describesTarget, Bool.and_eq_true, Bool.not_eq_true', Option.isNone_iff_eq_none] at htarget
  obtain ⟨habsent, htext⟩ := htarget
  unfold describe
  split
  · simp [Value.isAbsent] at habsent
  · simp [text?] at htext
  · rw [Action.bind_apply, Action.get_apply]
    simp only [htext, hclass]
    rfl

/-- All groups on the way down are described by the same texts at all times. -/
def Steady (sf : Surface U S) (f : Forest (Value U)) (g : Nat) : Prop :=
  ∀ a ∈ f.ancestors g, ∀ gr, f.group? a = some gr → ∃ t, sf.DescribedBy gr.description t

theorem each_steady {α β : Type} {k : α → Step U S β} {l : List α} (h : ∀ a ∈ l, ∃ b, ∀ s, k a s = (.done b, s)) :
    ∃ bs, ∀ s, each k l s = (.done bs, s) := by
  induction l with
  | nil => exact ⟨[], fun _ => rfl⟩
  | cons a l ih =>
    obtain ⟨b, hb⟩ := h a (List.mem_cons_self ..)
    obtain ⟨bs, hbs⟩ := ih fun x hx => h x (List.mem_cons_of_mem _ hx)
    refine ⟨b :: bs, fun s => ?_⟩
    unfold each
    rw [Action.bind_done (hb s), Action.bind_done (hbs s)]
    rfl

theorem each_congr {α β : Type} {k k' : α → Step U S β} {l : List α} (h : ∀ a ∈ l, k' a = k a) :
    each k' l = each k l := by
  induction l with
  | nil => rfl
  | cons a l ih =>
    unfold each
    rw [h a (List.mem_cons_self ..), ih fun x hx => h x (List.mem_cons_of_mem _ hx)]

theorem Steady.fullText {f : Forest (Value U)} {g : Nat} (h : sf.Steady f g) :
    ∃ t, ∀ s, sf.fullText f g s = (.done t, s) := by
  have hgroup (a : Nat) (ha : a ∈ f.ancestors g) : ∃ t, ∀ s, sf.groupText f a s = (.done t, s) := by
    unfold groupText
    cases hgr : f.group? a with
    | none => exact ⟨"", fun _ => rfl⟩
    | some gr => exact h a ha gr hgr
  obtain ⟨ts, hts⟩ := each_steady (k := sf.pathPart f) (l := f.ancestors g) fun a ha => by
    obtain ⟨t, ht⟩ := hgroup a ha
    by_cases hempty : t = ""
    · exact ⟨[], fun s => by rw [pathPart, Action.bind_done (ht s), if_pos hempty]; rfl⟩
    · exact ⟨[t], fun s => by rw [pathPart, Action.bind_done (ht s), if_neg hempty, Action.bind_done (ht s)]; rfl⟩
  refine ⟨" ".intercalate ts.flatten, fun s => ?_⟩
  have hattempt : Action.attempt (each (sf.pathPart f) (f.ancestors g)) s = (.done (.ok ts), s) := by
    rw [Action.attempt_apply, hts]
  unfold Surface.fullText sequenceOf
  rw [bind_assoc, Action.bind_done hattempt]
  rfl

end Surface

/-- A grown forest describes the groups that were there as before. -/
theorem Forest.Grows.fullText_of_lt {f f' : Forest (Value U)} {g : Nat} (hg : f.Grows f') (h : f.WellFormed)
    (hlt : g < f.groups.size) : sf.fullText f' g = sf.fullText f g := by
  unfold Surface.fullText Surface.sequenceOf
  rw [hg.ancestors_of_lt h hlt, Surface.each_congr fun a ha => ?_]
  obtain ⟨gr, hgr, hgrows⟩ := hg a _ (Array.getElem?_eq_getElem (h.lt_of_mem_ancestors hlt ha))
  unfold Surface.pathPart Surface.groupText
  rw [hgr, show f.group? a = _ from Array.getElem?_eq_getElem (h.lt_of_mem_ancestors hlt ha)]
  simp only [hgrows.description]

/-! ## The last definition -/

/-- The last definition of the name that has been made in the group. -/
def Change.latest? {V : Type} (cs : List (Change V)) (g : Nat) (name : HelperName V) : Option (Definition V) :=
  (cs.filterMap (·.definitionIn? g name)).getLast?

section
variable {f : Forest (Value U)} {cs : List (Change (Value U))} {g : Nat} {name : HelperName (Value U)}
  {d : Definition (Value U)}

/-- A definition tells the depth of its group, and the text that the group had when the definition was made. -/
theorem Forest.Sound.of_latest? (h : f.Sound sf cs) (hf : f.WellFormed) (hd : Change.latest? cs g name = some d) :
    d.name.same name = true ∧ (∃ v, d.producer = .callable v) ∧ d.level = (f.after cs).depth g ∧
      ∃ s s', sf.fullText (f.after cs) g s = (.done d.groupPath, s') := by
  obtain ⟨c, hc, hdef⟩ := List.mem_filterMap.mp (List.mem_of_getLast? hd)
  obtain ⟨ds, es, rfl⟩ := List.append_of_mem hc
  rw [Forest.sound_append] at h
  obtain ⟨hds, hadm, hes⟩ := h
  cases c with
  | define i d' =>
    simp only [Change.definitionIn?, Option.ite_none_right_eq_some, Option.some.injEq] at hdef
    obtain ⟨⟨rfl, hname⟩, rfl⟩ := hdef
    have hgrows : (f.after ds).Grows (f.after (ds ++ .define i d' :: es)) := by
      rw [Forest.after_append, Forest.after_cons]
      exact hadm.grows.trans hes.grows
    obtain ⟨ho, hlevel, hproducer, htext⟩ := hadm
    have hwf := hds.wellFormed hf
    obtain ⟨gr, hgr, -⟩ := Forest.exists_of_isSealed ho
    have hlt := (Array.getElem?_eq_some_iff.mp hgr).1
    rw [hgrows.depth_of_lt hwf hlt, hgrows.fullText_of_lt hwf hlt]
    exact ⟨hname, hproducer, hlevel, htext⟩
  | _ => simp [Change.definitionIn?] at hdef

/-- The text that a definition carries is that of its group, if the group always has the same. -/
theorem Forest.Sound.fullText_of_latest? (h : f.Sound sf cs) (hf : f.WellFormed)
    (hd : Change.latest? cs g name = some d) (hsteady : sf.Steady (f.after cs) g) (s : S) :
    sf.fullText (f.after cs) g s = (.done d.groupPath, s) := by
  obtain ⟨-, -, -, s₁, s₂, htext⟩ := h.of_latest? hf hd
  obtain ⟨t, ht⟩ := hsteady.fullText
  obtain rfl : t = d.groupPath := by simpa using congrArg Prod.fst ((ht s₁).symm.trans htext)
  exact ht s

/-- The definitions of a name that the history tells, root first. -/
def Forest.linksOf (f : Forest (Value U)) (cs : List (Change (Value U))) (g : Nat) (name : HelperName (Value U)) :
    List (Definition (Value U)) :=
  (f.ancestors g).filterMap fun a => Change.latest? cs a name

/-- These are the ones that a scope comes upon, if all groups on the way down have come into being since. -/
theorem Forest.Sound.declaredChain_eq (h : f.Sound sf cs)
    (hnew : ∀ a ∈ (f.after cs).ancestors g, f.groups.size ≤ a) :
    (f.after cs).declaredChain g name = (f.after cs).linksOf cs g name := by
  refine List.filterMap_congr fun a ha => ?_
  rw [h.find?_helpers_after]
  simp [Change.latest?, Forest.helpers, Forest.group?, Array.getElem?_eq_none (hnew a ha), HelperTable.find?]

/-- From the level of the target on, the levels grow. -/
theorem Forest.Sound.pairwise_levels (h : f.Sound sf cs) (hf : f.WellFormed) :
    (targetLevel :: ((f.after cs).linksOf cs g name).map (·.level)).Pairwise (· < ·) := by
  have hlevel {a : Nat} {d : Definition (Value U)} (hd : Change.latest? cs a name = some d) :
      d.level = (f.after cs).depth a := (h.of_latest? hf hd).2.2.1
  refine List.pairwise_cons.mpr ⟨fun l hl => ?_, ?_⟩
  · obtain ⟨d, hd, rfl⟩ := List.mem_map.mp hl
    obtain ⟨a, -, hd⟩ := List.mem_filterMap.mp hd
    rw [hlevel hd]
    unfold targetLevel
    omega
  · rw [List.pairwise_map, linksOf, List.pairwise_filterMap]
    refine ((h.wellFormed hf).pairwise_depth g).imp fun {a b} hab d hd d' hd' => ?_
    rw [hlevel hd, hlevel hd']
    exact Int.ofNat_lt.mpr hab

end

/-- What a scope finds under a name, told by the history of the tree. At any moment the definitions of a name for the
examples of a group are the last ones that were made in each group on the way down, root first, and before them the
root's target if it describes one and the name is that of the subject. So the levels grow; each definition tells the
depth of its group, and its full text if this is always the same. -/
theorem Host.definitionsFor_of_history (h : Host U S) (n : Nat) (description block : Value U) {w : World U S}
    (hw : w.forest.WellFormed) :
    ((h.engine n).buildGroup description block w).2.forest = w.forest.after (h.chronicle n description block w) ∧
    ∀ cs f, cs <+: h.chronicle n description block w → f = w.forest.after cs →
      ∀ g ∈ cs.filterMap Change.created?, f.Under w.forest.groups.size g → ∀ name,
        (h.toSurface.definitionsFor f g name =
          if name.same .subject && h.toSurface.describesTarget description w.outside then do
            let path ← h.toSurface.fullText f w.forest.groups.size
            pure (⟨.subject, targetLevel, .target description, path⟩ :: f.linksOf cs g name)
          else pure (f.linksOf cs g name)) ∧
        (targetLevel :: (f.linksOf cs g name).map (·.level)).Pairwise (· < ·) ∧
        ∀ a ∈ f.ancestors g, ∀ d, Change.latest? cs a name = some d →
          d.name.same name = true ∧ (∃ v, d.producer = .callable v) ∧ d.level = f.depth a ∧
          (h.toSurface.Steady f a → ∀ s, h.toSurface.fullText f a s = (.done d.groupPath, s)) := by
  obtain ⟨-, hforest, hsound, ds, es, he, -⟩ := h.buildGroup_chronicle n description block w
  refine ⟨hforest, ?_⟩
  rintro cs _ ⟨q, hq⟩ rfl g hg hu name
  have hs := (Forest.sound_append.mp (hq ▸ hsound)).1
  have hwf := hs.wellFormed hw
  obtain ⟨cs', hcs⟩ : ∃ cs', cs =
      .root w.forest.groups.size description (h.toSurface.targetOf description w.outside) :: cs' := by
    cases cs with
    | nil => simp at hg
    | cons c cs' =>
      rw [he, List.cons_append, List.cons.injEq] at hq
      exact ⟨cs', by rw [hq.1]⟩
  obtain ⟨root, hroot, -, htarget, -⟩ := hs.group?_root hcs
  have hnone : (w.forest.after cs).parent? w.forest.groups.size = none := hs.parent?_root hcs
  have hnew (a : Nat) (ha : a ∈ (w.forest.after cs).ancestors g) : w.forest.groups.size ≤ a :=
    (hu.of_mem_ancestors hnone ha).le hwf
  have htarget? : (w.forest.after cs).target? g = h.toSurface.targetOf description w.outside := by
    rw [Forest.target?, hwf.root_eq hnone hu, hroot]
    exact htarget
  refine ⟨?_, hs.pairwise_levels hw, fun a _ d hd => ?_⟩
  · unfold Surface.definitionsFor
    rw [hs.declaredChain_eq hnew, htarget?, hwf.root_eq hnone hu]
    unfold Surface.targetOf
    cases name.same .subject <;> cases h.toSurface.describesTarget description w.outside <;> rfl
  · obtain ⟨hname, hproducer, hlevel, -⟩ := hs.of_latest? hw hd
    exact ⟨hname, hproducer, hlevel, hs.fullText_of_latest? hw hd⟩

/-- The nested group's examples find its second definition and, outward, the one of the group around it. -/
theorem definitionsFor_nested :
    ∃ links, Host.nested.definitionsFor
        ((Host.nested.engine 4).buildGroup (.text "outer") (.user 1) (.initial () false)).2.forest 1 (.text "x") =
          pure links ∧
      links.map (·.level) = [0, 1] ∧ links.map (·.groupPath) = ["outer", "outer inner"] ∧
      (links.map fun d => match d.producer with | .callable (.user u) => u | _ => 0) = [7, 9] := by
  obtain ⟨hforest, hall⟩ :=
    Host.nested.definitionsFor_of_history 4 (.text "outer") (.user 1) (w := .initial () false) .empty
  rw [hforest]
  have hunder : ((World.initial () false : World Nat Unit).forest.after
      (Host.nested.chronicle 4 (.text "outer") (.user 1) (.initial () false))).Under 0 1 :=
    .step (by decide +kernel) .refl
  obtain ⟨hlinks, -⟩ := hall _ _ List.prefix_rfl rfl 1 (by decide +kernel) hunder (.text "x")
  exact ⟨_, hlinks, by decide +kernel, by decide +kernel, by decide +kernel⟩

end Exemplar

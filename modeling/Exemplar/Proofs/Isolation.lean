import Exemplar.Proofs.Calls
import Exemplar.Proofs.Extent
import Exemplar.Proofs.Halting
import Exemplar.Proofs.Numbers
import Exemplar.Proofs.Order

/-!
# Exemplar.Proofs.Isolation — what one example knows of the others

Nothing. Of the tree an example meets only the groups above it; whatever stands elsewhere may be different, or not be
there. Of the examples that ran before it meets only what they have done to the specification's own state. So if they
have left alone what it uses, it ends as it does when it runs first.

* `View.Suits.runExample`: alike examples under alike groups run alike.
* `Forest.Tree`, `Host.tree_buildGroup`: closed trees, and that this is what gets declared.
* `Unshared.alone`: an example that runs after others ends as it does alone.
* `Unshared.of_isData`: in a tree without handles only the code could share state.
* `Host.examples_isolated`: both together.
-/

namespace Exemplar

variable {U S : Type}

/-! ## Alike examples in two trees -/

/-- Below the same root groups stand below the same. -/
theorem Kinship.Chain.of_levels {K : Kinship U} {f f' : Forest (Value U)} {g g' : Nat} (hf : f.WellFormed)
    (hf' : f'.WellFormed) (hl : List.Forall₂ (K.Level f f') (f.ancestors g) (f'.ancestors g'))
    (ht : Option.Rel K.value (f.target? g) (f'.target? g')) : K.Chain f g f' g' where
  levels := hl
  root := by
    rw [hf.ancestors_root, hf'.ancestors_root]
    obtain ⟨as, has⟩ := f.ancestors_eq_cons g
    obtain ⟨as', has'⟩ := f'.ancestors_eq_cons g'
    rw [has, has', List.forall₂_cons] at hl
    exact .cons hl.1 .nil
  target := ht

/-- What a group is like depends on the group alone. -/
theorem Kinship.Level.congr {K : Kinship U} {f f' f'' : Forest (Value U)} {a a' : Nat} (h : K.Level f f' a a')
    (he : f''.group? a' = f'.group? a') : K.Level f f'' a a' where
  description := he ▸ h.description
  helpers hn := by
    have hf : f''.helpers a' = f'.helpers a' := by rw [Forest.helpers, Forest.helpers, he]
    exact hf ▸ h.helpers hn

/-- The view suits two examples that are about to run in these worlds: the worlds look the same, the examples are
alike, and the specification's code cannot tell the two runs apart by what corresponds. -/
structure View.Suits (q : View U S) (h : Host U S) (ev : Evaluator (Value U)) (w w' : World U S)
    (x x' : Example (Value U)) : Prop where
  outside : q.tie w.outside w'.outside
  verbose : w'.verbose = w.verbose
  code : Host.Like (q.twin w w' x x') h h
  evaluator : ev.Like (q.value w w') ev
  alike : x.Like (q.value w w') x'

/-- Alike examples below alike groups end alike, come to alike values of their helpers, make alike calls and leave
outside states that are alike. -/
theorem View.Suits.runExample {q : View U S} {h : Host U S} {ev : Evaluator (Value U)} {w w' : World U S}
    {x x' : Example (Value U)} (hs : q.Suits h ev w w' x x')
    (hc : (q.kinship w w' x x').Chain w.forest x.group w'.forest x'.group) (n : Nat) :
    Ending.Like (q.kinship w w' x x').Exn Eq ((h.engine n).runExample ev x w).1 ((h.engine n).runExample ev x' w').1 ∧
    Option.Rel (q.kinship w w' x x').Scope (((h.engine n).runExample ev x w).2.scope? w.scopes.size)
      (((h.engine n).runExample ev x' w').2.scope? w'.scopes.size) ∧
    List.Forall₂ (Invocation.Like (q.kinship w w' x x')) (h.callsOf n ev x w) (h.callsOf n ev x' w') ∧
    q.tie ((h.engine n).runExample ev x w).2.outside ((h.engine n).runExample ev x' w').2.outside := by
  have a : Abreast (q.twin w w' x x').noted (h.chronicler n) (h.chronicler n) :=
    abreast_execWith hs.code.noted (fun _ _ _ _ _ _ _ _ hd => hd.elim) n
  have howner : (q.kinship w w' x x').owner x x' := ⟨⟨rfl, rfl⟩, hs.alike⟩
  have hstart : (q.twin w w' x x').noted.holds () (w.beside .empty) (w'.beside .empty) :=
    ⟨.of_start hs.outside hs.verbose hc, .nil⟩
  obtain ⟨hend, htogether, hcalls⟩ := a.runExample hs.evaluator howner () _ _ hstart
  rw [h.runExample_told, h.runExample_told]
  exact ⟨hend, htogether.scope? 0, hcalls, htogether.outside⟩

/-! ## Trees -/

namespace Forest

variable {V : Type} {f f' : Forest V} {root : Nat}

/-- A closed tree: all that stands below the root is in its place and closed. -/
structure Tree (f : Forest V) (root : Nat) : Prop where
  wellFormed : f.WellFormed
  placed : f.Placed root
  top : f.parent? root = none
  closed {g : Nat} (hg : f.Under root g) : ∃ gr, f.group? g = some gr ∧ gr.isSealed = true

namespace Tree

variable (h : f.Tree root)
include h

theorem closedBelow : f.ClosedBelow root := by
  intro g hg
  refine h.closed ?_
  induction hg with
  | root => exact .refl
  | child _ hc ih => exact Under.trans ih (.step (h.wellFormed.entered hc) .refl)

theorem under_of_mem_walk {x : Example V} (hx : x ∈ f.walk root) : f.Under root x.group :=
  ((h.placed.mem_walk h.wellFormed (Nat.le_refl _)).mp hx).1

/-- Above its groups nothing changes any more. -/
theorem group?_eq (hg : f.Grows f') {g a : Nat} (hu : f.Under root g) (ha : a ∈ f.ancestors g) :
    f'.group? a = f.group? a := by
  obtain ⟨gr, hgr, hs⟩ := h.closed (hu.of_mem_ancestors h.top ha)
  rw [hg.group?_eq hgr hs, hgr]

theorem ancestors_eq (hg : f.Grows f') {g : Nat} (hu : f.Under root g) : f'.ancestors g = f.ancestors g := by
  obtain ⟨gr, hgr, -⟩ := h.closed hu
  exact hg.ancestors_of_lt h.wellFormed (Array.getElem?_eq_some_iff.mp hgr).1

theorem root_eq (hg : f.Grows f') {g : Nat} (hu : f.Under root g) : f'.root g = f.root g := by
  obtain ⟨gr, hgr, -⟩ := h.closed hu
  exact hg.root_of_lt h.wellFormed (Array.getElem?_eq_some_iff.mp hgr).1

theorem target?_eq (hg : f.Grows f') {g : Nat} (hu : f.Under root g) : f'.target? g = f.target? g := by
  rw [target?, target?, h.root_eq hg hu, h.group?_eq hg hu (f.root_mem_ancestors g)]

end Tree
end Forest

/-- What has been declared is a closed tree, however its declaration has ended. -/
theorem Host.tree_buildGroup (h : Host U S) (n : Nat) (description block : Value U) {w : World U S}
    (hw : w.forest.WellFormed) :
    ((h.engine n).buildGroup description block w).2.forest.Tree w.forest.groups.size := by
  obtain ⟨-, hforest, hsound, cs, ds, he, hcs, hds, -⟩ := h.buildGroup_chronicle n description block w
  obtain ⟨root, hroot, -⟩ := hsound.group?_root he
  have hrunning : Change.running [] (h.chronicle n description block w) = some [] := he ▸ hcs.running_tree hds
  have hwf := hsound.wellFormed hw
  rw [hforest]
  refine ⟨hwf, hsound.placed hw, hsound.parent?_root he, fun {g} hg => ?_⟩
  obtain ⟨gr, hgr⟩ : ∃ gr, (w.forest.after (h.chronicle n description block w)).group? g = some gr := by
    cases hg with
    | refl => exact ⟨root, hroot⟩
    | step hp _ => exact (Option.bind_eq_some_iff.mp hp).imp fun _ h => h.1
  have hclosed := hsound.closed hrunning (hg.le hwf)
  exact ⟨gr, hgr, by simpa [Forest.isSealed, hgr] using hclosed⟩

/-! ## Examples that share nothing -/

/-- Nothing changes whether notices are taken down, as a frame. -/
def loudnessFrame : Frame U S where
  holds _ := True
  leads w w' := w'.verbose = w.verbose
  refl _ := rfl
  trans h h' := h'.trans h
  stays _ _ := trivial
  outside _ _ := rfl
  tells _ _ _ := rfl
  counts _ := rfl
  recorders _ _ _ := rfl
  declares _ _ := rfl
  succeeds _ _ _ _ _ := rfl
  opens _ _ _ := rfl
  computes _ _ _ _ _ := ⟨trivial, fun _ h => ⟨h, fun _ => h⟩⟩

/-- The examples below a root share no outside state that could change. What an example uses of the outside state is
`kept` where it is as in the world `w`, in which the run of the examples begins; and it is kept while other examples
run. A view tells for each example what corresponds there: its code goes in step with itself from states in which what
it uses is kept, and neither the groups above it nor the value that they describe hold a builder or a scope. -/
structure Unshared (h : Host U S) (n : Nat) (ev : Evaluator (Value U)) (w : World U S) (root : Nat)
    (kept : Example (Value U) → S → Prop) : Prop where
  start {x : Example (Value U)} (hx : x ∈ w.forest.walk root) : kept x w.outside
  others {x y : Example (Value U)} (hx : x ∈ w.forest.walk root) (hy : y ∈ w.forest.walk root) (hne : y ≠ x)
    {v : World U S} (hg : w.forest.Grows v.forest) (hkx : kept x v.outside) (hky : kept y v.outside) :
    kept x ((h.engine n).runExample ev y v).2.outside
  view {x : Example (Value U)} (hx : x ∈ w.forest.walk root) {v : World U S} (hg : w.forest.Grows v.forest)
    (hv : v.verbose = w.verbose) (hk : kept x v.outside) :
    ∃ q : View U S, q.Suits h ev w v x x ∧
      (∀ a ∈ w.forest.ancestors x.group, (q.kinship w v x x).Level w.forest w.forest a a) ∧
      Option.Rel (q.value w v) (w.forest.target? x.group) (w.forest.target? x.group)

namespace Unshared

variable {h : Host U S} {n : Nat} {ev : Evaluator (Value U)} {w : World U S} {root : Nat}
  {kept : Example (Value U) → S → Prop} (hu : Unshared h n ev w root kept) (ht : w.forest.Tree root)
include hu ht

/-- Where everything is kept that an example uses it ends as in the world where the run begins. -/
theorem alone {x : Example (Value U)} (hx : x ∈ w.forest.walk root) {v : World U S} (hg : w.forest.Grows v.forest)
    (hv : v.verbose = w.verbose) (hk : kept x v.outside) :
    ∃ K : Kinship U, Ending.Like K.Exn Eq ((h.engine n).runExample ev x w).1 ((h.engine n).runExample ev x v).1 := by
  obtain ⟨q, hs, hlevel, htarget⟩ := hu.view hx hg hv hk
  have hunder := ht.under_of_mem_walk hx
  have hroot := w.forest.root_mem_ancestors x.group
  have hlevels {g : Nat} (hg' : w.forest.Under root g)
      (hsub : ∀ a ∈ w.forest.ancestors g, a ∈ w.forest.ancestors x.group) :
      List.Forall₂ ((q.kinship w v x x).Level w.forest v.forest) (w.forest.ancestors g) (v.forest.ancestors g) := by
    rw [ht.ancestors_eq hg hg', List.forall₂_same]
    exact fun a ha => (hlevel a (hsub a ha)).congr (ht.group?_eq hg hunder (hsub a ha))
  refine ⟨q.kinship w v x x, (hs.runExample ⟨hlevels hunder fun _ ha => ha, ?_, ?_⟩ n).1⟩
  · rw [ht.root_eq hg hunder]
    refine hlevels (hunder.of_mem_ancestors ht.top hroot) fun a ha => ?_
    rw [ht.wellFormed.ancestors_root, List.mem_singleton] at ha
    exact ha ▸ hroot
  · exact ht.target?_eq hg hunder ▸ htarget

/-- Examples that have run have ended as they do where the run begins, and what the next ones use is kept. -/
theorem ran {r : Reporting} {xs rest : List (Example (Value U))} {os : List Outcome} {v v' : World U S}
    (hran : (Runner.standard h n ev).Ran r xs v os v') (hwalk : ∀ x ∈ xs ++ rest, x ∈ w.forest.walk root)
    (hnodup : (xs ++ rest).Nodup) (hg : w.forest.Grows v.forest) (hv : v.verbose = w.verbose)
    (hk : ∀ x ∈ xs ++ rest, kept x v.outside) :
    List.Forall₂ (fun x o => ((h.engine n).runExample ev x w).1 = .done o) xs os ∧
      w.forest.Grows v'.forest ∧ v'.verbose = w.verbose ∧ ∀ x ∈ rest, kept x v'.outside := by
  induction hran with
  | nil => exact ⟨.nil, hg, hv, hk⟩
  | @cons x xs o os v v₁ v' hx ho hran ih =>
    rw [List.cons_append] at hwalk hnodup hk
    obtain ⟨hfresh, hnodup⟩ := List.nodup_cons.mp hnodup
    obtain ⟨hxw, hwalk⟩ := List.forall_mem_cons.mp hwalk
    obtain ⟨hkx, hkrest⟩ := List.forall_mem_cons.mp hk
    have hrun : (h.engine n).runExample ev x v = (.done o, v₁) := hx
    have hgrow : w.forest.Grows v₁.forest := by
      have hgrow := hg.trans ((Runner.standard h n ev).grows x v)
      rwa [hx] at hgrow
    have hverbose : v₁.verbose = w.verbose := by
      have hl := ((loudnessFrame.alike_engine h n).runExample ev x v trivial).2
      rw [hrun] at hl
      exact Eq.trans hl hv
    have hkept (y : Example (Value U)) (hy : y ∈ xs ++ rest) : kept y v₁.outside := by
      have hne : x ≠ y := fun he => hfresh (he ▸ hy)
      have hk := hu.others (hwalk y hy) hxw hne hg (hkrest y hy) hkx
      rwa [hrun] at hk
    obtain ⟨hrest, hafter⟩ := ih hwalk hnodup hgrow hverbose hkept
    obtain ⟨K, halone⟩ := hu.alone ht hxw hg hv hkx
    rw [hrun] at halone
    refine ⟨.cons ?_ hrest, hafter⟩
    generalize ((h.engine n).runExample ev x w).1 = ending at halone ⊢
    cases halone with
    | done h => rw [h]

end Unshared

/-! ## Trees of data -/

/-- The examples below the root and the groups above them hold no handles, and none is described there. -/
def Forest.isData [DecidableEq U] (f : Forest (Value U)) (root : Nat) : Bool :=
  (f.walk root).all fun x => x.sameData x && Value.sameData? (f.target? x.group) (f.target? x.group) &&
    (f.ancestors x.group).all fun a => f.sameData f a a

/-- In a tree of data it is the code alone that could share state. -/
theorem Unshared.of_isData [DecidableEq U] {h : Host U S} {n : Nat} {ev : Evaluator (Value U)} {w : World U S}
    {root : Nat} {kept : Example (Value U) → S → Prop} (hdata : w.forest.isData root = true)
    (hstart : ∀ x ∈ w.forest.walk root, kept x w.outside)
    (hothers : ∀ x ∈ w.forest.walk root, ∀ y ∈ w.forest.walk root, y ≠ x → ∀ v : World U S, w.forest.Grows v.forest →
      kept x v.outside → kept y v.outside → kept x ((h.engine n).runExample ev y v).2.outside)
    (q : Example (Value U) → View U S) (huser : ∀ x u, (q x).user u u)
    (htie : ∀ x ∈ w.forest.walk root, ∀ s, kept x s → (q x).tie w.outside s)
    (hcode : ∀ x ∈ w.forest.walk root, ∀ v, Host.Like ((q x).twin w v x x) h h ∧ ev.Like ((q x).value w v) ev) :
    Unshared h n ev w root kept where
  start hx := hstart _ hx
  others hx hy hne v hg hkx hky := hothers _ hx _ hy hne v hg hkx hky
  view {x} hx v _ hv hk := by
    have hall := List.all_eq_true.mp hdata x hx
    simp only [Bool.and_eq_true, List.all_eq_true] at hall
    obtain ⟨⟨hexample, htarget⟩, hgroups⟩ := hall
    have hu : ∀ u, ((q x).kinship w v x x).user u u := huser x
    obtain ⟨hlike, hev⟩ := hcode x hx v
    have halike : x.Like ((q x).kinship w v x x).value x := Kinship.example_of_sameData hu hexample
    refine ⟨q x, ⟨htie x hx _ hk, hv, hlike, hev, halike⟩, fun a ha => ?_, ?_⟩
    · exact .of_sameData hu (fun _ _ => trivial) (hgroups a ha)
    · exact Kinship.rel_of_sameData? hu htarget

/-! ## Numbers in two runs -/

section
variable {K : Kinship Nat} {T : Twin K Unit Unit} {hidden : Nat → Bool} {code : NumberedCode}
  (hu : ∀ u u', K.user u u' → u = u')
include hu

theorem numberText_like {v v' : Value Nat} (hv : K.value v v') :
    T.Steps Eq (numberText hidden v) (numberText hidden v') := by
  have hshape := K.value_iff.mp hv
  cases hshape with
  | @user u u' h =>
    obtain rfl := hu u u' h
    exact .ite rfl (.raise (.raised (.thrown hv))) (.pure rfl)
  | _ => exact .pure rfl

theorem sameNumber_eq {a a' b b' : Value Nat} (ha : K.value a a') (hb : K.value b b') :
    sameNumber a' b' = sameNumber a b := by
  cases K.value_iff.mp ha <;> cases K.value_iff.mp hb
  all_goals
    unfold sameNumber
    first
    | rfl
    | rename_i u u' h v v' h'
      rw [hu u u' h, hu v v' h']

/-- The numbers cannot tell two runs apart if the code under them cannot. -/
theorem Host.like_numbers (hcode : ∀ u vs vs', List.Forall₂ K.value vs vs' →
    Program.Like T K.value (code u vs) (code u vs')) : Host.Like T (.numbers hidden code) (.numbers hidden code) where
  repr hv := numberText_like hu hv
  str hv := numberText_like hu hv
  typeName _ _ := rfl
  truthy h _ := hu _ _ h ▸ rfl
  callable _ _ := rfl
  signature? _ _ := rfl
  class? _ _ := rfl
  nameOf? _ _ := .none
  ownText? _ _ := rfl
  decoded? _ _ := rfl
  items? _ _ := .none
  key hv := numberText_like hu hv
  equal ha hb := .pure (sameNumber_eq hu ha hb).symm
  identical ha hb _ := sameNumber_eq hu ha hb
  isInstance _ _ := .pure rfl
  minus ha _ := .pure ha
  magnitude hv := .pure hv
  atMost _ _ := .pure rfl
  kind _ _ := rfl
  endsSequence _ _ := rfl
  catches _ _ := .pure rfl
  complaint _ ht := ⟨Kinship.text _, ht⟩
  call h hvs := hu _ _ h ▸ hcode _ _ _ hvs
  contains _ _ := .pure rfl
  matchesActual _ _ := .pure (Kinship.flag true)
  traitOf _ _ := .pure .none
  judge negate _ _ hm := .pure (.mk _ Kinship.absent .none negate hm)

end

/-- The view under which equal numbers correspond. -/
def View.numbers : View Nat Unit := ⟨Eq, fun _ _ => True⟩

theorem Host.like_apart (w w' : World Nat Unit) (x x' : Example (Value Nat)) :
    Host.Like (View.numbers.twin w w' x x') .apart .apart := by
  refine Host.like_numbers (fun _ _ h => h) fun u vs vs' hvs => ?_
  let K := View.numbers.kinship w w' x x'
  rcases hvs with _ | ⟨hv, _ | ⟨_, _⟩⟩
  · exact .pure (Kinship.text _)
  · cases K.value_iff.mp hv with
    | builder h => exact h.elim
    | scope h =>
      refine .bind (.ask (.lookup h (Kinship.text "x"))) fun v v' hv => ?_
      split
      · exact .raise (.failure hv)
      · exact .pure hv
    | _ => exact .pure (Kinship.text _)
  · cases K.value_iff.mp hv <;> exact .pure (Kinship.text _)

/-- The tree that the block under this number declares. -/
def apartWorld (block : Nat) : World Nat Unit :=
  ((Host.apart.engine 4).buildGroup (.text "outer") (.user block) (.initial () false)).2

theorem apartWorld_tree (block : Nat) : (apartWorld block).forest.Tree 0 :=
  Host.apart.tree_buildGroup 4 (.text "outer") (.user block) .empty

theorem Unshared.apart {block : Nat} (h : (apartWorld block).forest.isData 0 = true) :
    Unshared .apart 4 .standard (apartWorld block) 0 fun _ _ => True :=
  .of_isData h (fun _ _ => trivial) (fun _ _ _ _ _ _ _ _ _ => trivial) (fun _ => .numbers) (fun _ _ => rfl)
    (fun _ _ _ _ => trivial) fun _ _ _ => ⟨Host.like_apart .., .standard⟩

/-- The example that fails, in its group. -/
def Example.told (g : Nat) : Example (Value Nat) := ⟨.text "told", g, 0, some (.user 6), .absent⟩

/-! ## Isolation -/

/-- Examples are isolated. Alike examples below alike groups, wherever these stand and whatever stands around them, end
alike, come to alike values of their helpers in scopes of their own, make the same calls and leave outside states that
are alike. So in a run of a closed tree whose examples share no state that could change, each example that is executed
has the outcome that it has when it runs alone; and if one ends without an outcome, it ends without one alone, too. -/
theorem Host.examples_isolated (h : Host U S) (n : Nat) (ev : Evaluator (Value U)) :
    (∀ (q : View U S) (w w' : World U S) (x x' : Example (Value U)),
      w.forest.WellFormed → w'.forest.WellFormed → q.Suits h ev w w' x x' →
      List.Forall₂ ((q.kinship w w' x x').Level w.forest w'.forest) (w.forest.ancestors x.group)
        (w'.forest.ancestors x'.group) →
      Option.Rel (q.value w w') (w.forest.target? x.group) (w'.forest.target? x'.group) →
      Ending.Like (q.kinship w w' x x').Exn Eq ((h.engine n).runExample ev x w).1
        ((h.engine n).runExample ev x' w').1 ∧
      Option.Rel (q.kinship w w' x x').Scope (((h.engine n).runExample ev x w).2.scope? w.scopes.size)
        (((h.engine n).runExample ev x' w').2.scope? w'.scopes.size) ∧
      List.Forall₂ (Invocation.Like (q.kinship w w' x x')) (h.callsOf n ev x w) (h.callsOf n ev x' w') ∧
      q.tie ((h.engine n).runExample ev x w).2.outside ((h.engine n).runExample ev x' w').2.outside) ∧
    ∀ (r : Reporting) (w : World U S) (root limit : Nat) (kept : Example (Value U) → S → Prop),
      w.forest.Tree root → Unshared h n ev w root kept → (w.forest.walk root).length < limit →
      ∃ before after os w₁, w.forest.walk root = before ++ after ∧
        (Runner.standard h n ev).Ran r before w os w₁ ∧
        List.Forall₂ (fun x o => ((h.engine n).runExample ev x w).1 = .done o) before os ∧
        match after with
        | [] => (h.engine n).drive r ((h.engine n).runExample ev) limit root w = (.done (Tally.of os), w₁)
        | x :: _ =>
          match (h.engine n).runExample ev x w₁ with
          | (.done o, w₂) => ((h.engine n).runExample ev x w).1 = .done o ∧ o.halts = true ∧
              (h.engine n).drive r ((h.engine n).runExample ev) limit root w =
                (h.engine n).halt root o (Tally.of (os ++ [o])) (w₂.reported r o)
          | (.raised err, w₂) => (∃ err', ((h.engine n).runExample ev x w).1 = .raised err') ∧
              (h.engine n).drive r ((h.engine n).runExample ev) limit root w = (.raised err, w₂)
          | (.exhausted, w₂) => ((h.engine n).runExample ev x w).1 = .exhausted ∧
              (h.engine n).drive r ((h.engine n).runExample ev) limit root w = (.exhausted, w₂) := by
  refine ⟨fun q w w' x x' hw hw' hs hl ht => hs.runExample (.of_levels hw hw' hl ht) n, ?_⟩
  intro r w root limit kept ht hu hlimit
  obtain ⟨before, after, os, w₁, hwalk, hran, hlast⟩ := (h.engine n).runFrom_law root (r := r)
    (R := Runner.standard h n ev) (y := .empty) (Forest.yields_walk ht.wellFormed ht.closedBelow) (.refl w.forest)
    hlimit
  have hmem (x : Example (Value U)) (hx : x ∈ before ++ after) : x ∈ w.forest.walk root := hwalk ▸ hx
  have hnodup : (before ++ after).Nodup := hwalk ▸ ht.placed.nodup_walk ht.wellFormed (Nat.le_refl _)
  obtain ⟨halone, hg, hv, hk⟩ := hu.ran ht hran hmem hnodup (.refl _) rfl fun x hx => hu.start (hmem x hx)
  refine ⟨before, after, os, w₁, hwalk, hran, halone, ?_⟩
  cases after with
  | nil => exact hlast
  | cons x rest =>
    have hxw : x ∈ w.forest.walk root := hmem x (List.mem_append_right _ (List.mem_cons_self ..))
    obtain ⟨K, hx⟩ := hu.alone ht hxw hg hv (hk x (List.mem_cons_self ..))
    have hrun : (Runner.standard h n ev).run x w₁ = (h.engine n).runExample ev x w₁ := rfl
    simp only [hrun] at hlast
    rcases hend : (h.engine n).runExample ev x w₁ with ⟨o | err | _, w₂⟩
    all_goals
      rw [hend] at hx
      simp only [hend] at hlast ⊢
      generalize ((h.engine n).runExample ev x w).1 = ending at hx ⊢
    · cases hx with
      | done he => exact ⟨he ▸ rfl, hlast⟩
    · cases hx with
      | raised he => exact ⟨⟨_, rfl⟩, hlast⟩
    · cases hx with
      | exhausted => exact ⟨rfl, hlast⟩

/-- The example fails with its helper's value in both trees, though in the second one another group has a helper of that
name, which an example has looked up before. -/
theorem examples_isolated_apart :
    let run (x : Example (Value Nat)) (block : Nat) :=
      ((Host.apart.engine 4).runExample .standard x (apartWorld block)).1
    (∃ K : Kinship Nat, Ending.Like K.Exn Eq (run (.told 1) 1) (run (.told 2) 2) ∧
      List.Forall₂ (Invocation.Like K) (Host.apart.callsOf 4 .standard (.told 1) (apartWorld 1))
        (Host.apart.callsOf 4 .standard (.told 2) (apartWorld 2))) ∧
    (∃ before after os w₁, (apartWorld 2).forest.walk 0 = before ++ after ∧
      (Runner.standard .apart 4 .standard).Ran ⟨[], false⟩ before (apartWorld 2) os w₁ ∧
      List.Forall₂ (fun x o => run x 2 = .done o) before os) ∧
    (run (.told 2) 2 matches .done ⟨.failed, "told", "seven"⟩) = true := by
  obtain ⟨htwo, hdrive⟩ := Host.apart.examples_isolated 4 .standard
  let K := View.numbers.kinship (apartWorld 1) (apartWorld 2) (.told 1) (.told 2)
  have hu : ∀ u, K.user u u := fun _ => rfl
  have hsuits : View.numbers.Suits .apart .standard (apartWorld 1) (apartWorld 2) (.told 1) (.told 2) :=
    ⟨trivial, by decide +kernel, Host.like_apart .., .standard, Kinship.example_of_sameData (K := K) hu rfl⟩
  have hdata : List.Forall₂ (fun a a' => (apartWorld 1).forest.sameData (apartWorld 2).forest a a' = true)
      ((apartWorld 1).forest.ancestors (Example.told 1).group)
      ((apartWorld 2).forest.ancestors (Example.told 2).group) := by decide +kernel
  have hlevels := hdata.imp fun _ _ h => Kinship.Level.of_sameData (K := K) hu (fun _ _ => trivial) h
  have htarget : Value.sameData? ((apartWorld 1).forest.target? (Example.told 1).group)
      ((apartWorld 2).forest.target? (Example.told 2).group) = true := by decide +kernel
  refine ⟨?_, ?_, by decide +kernel⟩
  · obtain ⟨hend, -, hcalls, -⟩ := htwo .numbers (apartWorld 1) (apartWorld 2) (.told 1) (.told 2)
      (apartWorld_tree 1).wellFormed (apartWorld_tree 2).wellFormed hsuits hlevels
      (Kinship.rel_of_sameData? (K := K) hu htarget)
    exact ⟨K, hend, hcalls⟩
  · obtain ⟨before, after, os, w₁, hwalk, hran, halone, -⟩ :=
      hdrive ⟨[], false⟩ (apartWorld 2) 0 3 (fun _ _ => True) (apartWorld_tree 2) (.apart (by decide +kernel))
        (by decide +kernel)
    exact ⟨before, after, os, w₁, hwalk, hran, halone⟩

end Exemplar

import Exemplar.Proofs.Starts

/-!
# Exemplar.Proofs.Aside — something beside the state that nothing touches

Whatever stands beside the specification's own state, the library and the code of the specification do the same as
without it. They also leave it as it is, so an account of the run can be kept there.

* `Twin.aside`: a world and the same one with something beside its state.
* `Abreast.buildGroup_aside`, `Abreast.runOrExit_aside`: trees are declared and run in step.
* `Host.abreast_beside`: the engine of a host is abreast of the one with something beside the state.
* `Action.Like.apply_kept`: what goes in step with that leaves alone what stands beside the state.
-/

namespace Exemplar

variable {U S L : Type}

/-- A world and the same one with something beside its state are twins, as long as `P` is true of that and the mark. -/
def Twin.aside {I L : Type} (U S : Type) (P : I → L → Prop) : Twin (Kinship.same (U := U)) S (S × L) where
  Mark := I
  holds i w w' := w'.forget = w ∧ P i w'.outside.2
  Tie := L
  tie l s p := p = (s, l)
  declares g d g' d' := g' = g ∧ d' = d
  outside {i w w'} h := by
    obtain ⟨rfl, hl⟩ := h
    refine ⟨w'.outside.2, rfl, fun s p hp => ?_⟩
    subst hp
    exact ⟨rfl, hl⟩
  verbose h := h.1 ▸ rfl
  records h hev := by
    obtain rfl := Event.like_eq ▸ hev
    exact ⟨h.1 ▸ rfl, h.2⟩
  counts h := ⟨h.1 ▸ rfl, h.1 ▸ rfl, h.2⟩
  recorders h := ⟨h.1 ▸ rfl, h.1 ▸ rfl, h.2⟩
  meets h hr hv := by
    obtain rfl := hr
    obtain rfl := hv
    exact ⟨h.1 ▸ rfl, h.2⟩
  recorded h hr := by
    obtain rfl := hr
    exact h.1 ▸ rfl
  scope? h hi := by
    obtain rfl := hi
    rw [Kinship.same_scope, rel_eq]
    exact h.1 ▸ rfl
  updates {k w w' i i' c c'} h hi hc := by
    obtain rfl := hi
    rw [Kinship.same_scope] at hc
    obtain rfl : c = c' := funext fun s => hc s s rfl
    exact ⟨h.1 ▸ rfl, h.2⟩
  opens h hx hev := by
    obtain rfl := hx
    obtain rfl := Evaluator.like_eq ▸ hev
    exact ⟨h.1 ▸ rfl, h.1 ▸ rfl, h.2⟩
  chain h hx := by
    obtain rfl := hx
    obtain ⟨rfl, -⟩ := h
    exact .refl _ _

/-- What stands beside the state is the mark. -/
abbrev Twin.kept (U S L : Type) : Twin (Kinship.same (U := U)) S (S × L) := .aside U S fun l l' : L => l' = l

section
variable {I : Type} {P : I → L → Prop}

theorem Twin.aside_beside : (Twin.aside U S P).Beside where
  state h := h ▸ rfl
  moves _ h := h ▸ rfl
  forget h := h.1
  declares _ _ := ⟨rfl, rfl⟩

/-- The two worlds stay in step when both get the same forest. -/
theorem Twin.aside_forest {i : I} {w : World U S} {w' : World U (S × L)} (f : Forest (Value U))
    (h : (Twin.aside U S P).holds i w w') : (Twin.aside U S P).holds i (w.withForest f) (w'.withForest f) :=
  ⟨h.1 ▸ rfl, h.2⟩

/-- The two engines make the same declarations. -/
theorem Abreast.declare_aside {e : Engine U S} {e' : Engine U (S × L)} (a : Abreast (Twin.aside U S P) e e')
    {g g' : Nat} {d d' : Declaration (Value U)} (hd : (Twin.aside U S P).declares g d g' d') :
    (Twin.aside U S P).Runs Eq (e.declare g d) (e'.declare g' d') := by
  obtain ⟨rfl, rfl⟩ := hd
  exact Twin.aside_beside.declare Twin.aside_forest a g' d'

namespace Abreast

variable {e : Engine U S} {e' : Engine U (S × L)} (a : Abreast (Twin.aside U S P) e e')
include a

/-! ## Trees and runs -/

theorem addRoot_aside (d : Value U) : (Twin.aside U S P).Runs Eq (e.addRoot d) (e'.addRoot d) := by
  refine .get fun m w w' hw => ?_
  obtain ⟨t, ht, -⟩ := (Twin.aside U S P).outside hw
  rw [a.surface.describesTarget (v := d) rfl ht, Twin.aside_beside.forest_eq hw]
  exact (Twin.aside_beside.changeForest Twin.aside_forest _).bind_eq fun _ => .pure rfl

theorem buildGroup_aside (d block : Value U) :
    (Twin.aside U S P).Runs Eq (e.buildGroup d block) (e'.buildGroup d block) := by
  refine (a.addRoot_aside d).bind_eq fun root => .ite rfl ?_ ?_
  · exact (Twin.aside_beside.changeForest Twin.aside_forest _).bind_eq fun _ => .pure rfl
  · exact (Twin.aside_beside.populate Twin.aside_forest a root block).bind_eq fun _ => .pure rfl

theorem runExample_aside (ev : Evaluator (Value U)) (x : Example (Value U)) :
    (Twin.aside U S P).Runs Eq (e.runExample ev x) (e'.runExample ev x) := by
  have hev : ev.Like Eq ev := Evaluator.like_eq ▸ rfl
  exact a.runExample hev rfl

theorem runFrom_aside (r : Reporting) (ev : Evaluator (Value U)) (root n : Nat) (c : Forest.Cursor) (y : Tally) :
    (Twin.aside U S P).Runs Eq (e.runFrom r (e.runExample ev) root n c y)
      (e'.runFrom r (e'.runExample ev) root n c y) := by
  induction n generalizing c y with
  | zero => exact .exhausted
  | succ n ih =>
    unfold Engine.runFrom
    refine .get fun m w w' hw => ?_
    rw [Twin.aside_beside.forest_eq hw]
    split
    · exact .pure rfl
    · refine (a.runExample_aside ev _).bind_eq fun o => ?_
      have hreport : (Twin.aside U S P).Runs Eq (Run.report r o) (Run.report r o) :=
        (record (Event.like_eq ▸ rfl)).bind_eq fun _ => .pure rfl
      refine hreport.bind_eq fun _ => .ite rfl (.get fun m w w' hw => ?_) (ih _ _)
      rw [Twin.aside_beside.forest_eq hw]
      have htext := a.step (a.surface.groupText (Kinship.Level.refl w.forest root))
      exact htext.bind_eq fun text => (a.notice (.pure rfl)).bind_eq fun _ => .pure rfl

theorem runOrExit_aside (r : Reporting) (ev : Evaluator (Value U)) (limit root : Nat) :
    (Twin.aside U S P).Runs Eq (e.runOrExit r ev limit root) (e'.runOrExit r ev limit root) := by
  exact (a.runFrom_aside r ev root limit _ _).bind_eq fun y => .ite rfl (.raise (.refl _)) (.pure rfl)

theorem runAlone_aside (r : Reporting) (ev : Evaluator (Value U)) (limit : Nat) (d : Declaration (Value U)) :
    (Twin.aside U S P).Runs Eq (e.runAlone r ev limit d) (e'.runAlone r ev limit d) := by
  refine (a.addRoot_aside _).bind_eq fun root => ?_
  have hdeclare : (Twin.aside U S P).Runs Eq (e.declare root d) (e'.declare root d) := a.declare_aside ⟨rfl, rfl⟩
  refine (hdeclare.ensure fun m w w' hw => ?_).bind_eq fun _ => .get fun m w w' hw => ?_
  · have hclose := Twin.aside_forest (w.forest.closeGroup root) hw
    rw [← Twin.aside_beside.forest_eq hw] at hclose
    rwa [← Twin.aside_beside.forest_eq hw]
  · refine (Twin.aside_beside.fullText a hw root).bind_eq fun path => ?_
    rw [Twin.aside_beside.forest_eq hw]
    exact (a.notice (.pure rfl)).bind_eq fun _ => a.runOrExit_aside r ev limit root

end Abreast

theorem Host.abreast_beside (h : Host U S) (n : Nat) :
    Abreast (Twin.aside U S P) (h.engine n) (h.beside.engine n) := by
  rw [h.engine_eq, Host.engine_eq]
  exact abreast_execWith (h.like_beside Twin.aside_beside) (fun _ _ _ a _ _ _ _ hd => a.declare_aside hd) n

end

namespace Action.Like

variable {α : Type} {x : Run U S α} {x' : Run U (S × L) α}

theorem attempt_same {T : Twin (Kinship.same (U := U)) S (S × L)} (hx : T.Runs Eq x x') :
    T.Runs Eq (Action.attempt x) (Action.attempt x') := by
  have hlike : Except.Like (Kinship.same (U := U)).Exn (@Eq α) = Eq := Kinship.same_exn ▸ Except.like_eq
  exact hlike ▸ hx.attempt

/-- What goes in step ends in the same way, and leaves alone what stands beside the state. -/
theorem apply_kept (hx : (Twin.kept U S L).Runs Eq x x') (w : World U S) (l : L) :
    x' (w.beside l) = ((x w).1, (x w).2.beside l) := by
  obtain ⟨hend, hforget, hl⟩ := hx l w (w.beside l) ⟨rfl, rfl⟩
  refine Prod.ext hend.eq.symm ?_
  rw [← hforget]
  generalize (x' (w.beside l)).2 = w' at hl ⊢
  subst hl
  rfl

end Action.Like

end Exemplar

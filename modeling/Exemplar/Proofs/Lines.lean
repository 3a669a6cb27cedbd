import Exemplar.Proofs.Halting
import Mathlib.Algebra.Order.BigOperators.Group.List
import Mathlib.Algebra.Order.Group.Nat
import Mathlib.Data.List.Forall2

/-!
# Exemplar.Proofs.Lines — what is read on the streams

A run that comes to a result has written the lines of its outcomes, one after the other, to one stream or the other, and
nothing else. A line ends with a line feed; of its inside only the diagnostic can hold another one, and only before the
last character that is no blank. So whoever splits the text at its line feeds finds as many lines as examples were
executed, and one more for each line feed inside a diagnostic.

* `splitOn_lines`, `length_splitOn`: what splitting a text finds that is made of lines.
* `Outcome.count_plainLine`: the line feeds of a line are those of its diagnostic.
* `Engine.drive_done`: what a run has done that comes to a result.
* `Host.lines_of_run`: what is found on the streams after it.
-/

namespace Exemplar

variable {U S : Type}

/-! ## Texts made of lines -/

namespace Text

/-- Splitting a text whose lines are ended by line feeds finds what splitting the lines finds, and an empty end. -/
theorem splitOn_lines (ls : List (List Char)) :
    (ls.flatMap (· ++ ['\n'])).splitOn '\n' = ls.flatMap (·.splitOn '\n') ++ [[]] := by
  induction ls with
  | nil => rfl
  | cons l ls ih =>
    have hcons : (l :: ls).flatMap (· ++ ['\n']) = l ++ '\n' :: ls.flatMap (· ++ ['\n']) := by simp
    rw [hcons, List.splitOn, List.splitOnP_append_cons _ _ (by simp), List.flatMap_cons, List.append_assoc, ← ih]
    rfl

theorem length_splitOn (l : List Char) : (l.splitOn '\n').length = l.count '\n' + 1 := by
  induction l with
  | nil => rfl
  | cons c l ih =>
    rw [List.splitOn, List.splitOnP_cons_eq_if_modifyHead]
    by_cases hc : c = '\n'
    · subst hc
      rw [if_pos (by simp), List.length_cons, List.count_cons_self, ← ih]
      rfl
    · rw [if_neg (by simpa using hc), List.length_modifyHead, List.count_cons_of_ne hc, ← ih]
      rfl

theorem length_splitOn_lines (ls : List (List Char)) :
    (ls.flatMap (·.splitOn '\n')).length = ls.length + (ls.map (·.count '\n')).sum := by
  induction ls with
  | nil => rfl
  | cons l ls ih =>
    rw [List.flatMap_cons, List.length_append, length_splitOn, ih, List.length_cons, List.map_cons, List.sum_cons]
    omega

/-- Splitting finds the very lines exactly when none of them holds a line feed. -/
theorem flatMap_splitOn_eq_iff {ls : List (List Char)} :
    ls.flatMap (·.splitOn '\n') = ls ↔ ∀ l ∈ ls, '\n' ∉ l := by
  refine ⟨fun h l hl hn => ?_, fun h => ?_⟩
  · have hlength := length_splitOn_lines ls
    have hle := List.le_sum_of_mem (List.mem_map_of_mem (f := (·.count '\n')) hl)
    have hpos := List.count_pos_iff.mpr hn
    rw [h] at hlength
    omega
  · induction ls with
    | nil => rfl
    | cons l ls ih =>
      rw [List.flatMap_cons, List.splitOn_eq_singleton (h l (List.mem_cons_self ..)),
        ih fun l' hl' => h l' (List.mem_cons_of_mem _ hl')]
      rfl

theorem count_asSentence (s : String) : (asSentence s).toList.count '\n' = (trimRight s).toList.count '\n' := by
  unfold asSentence
  dsimp only
  split
  · rfl
  · rw [String.toList_append, List.count_append]
    rfl

end Text

/-! ## Lines -/

/-- The line of an outcome under the default labels. -/
def Outcome.plainLine (o : Outcome) : List Char :=
  (o.tag.defaultLabel ++ ": " ++ Text.asSentence o.diagnostic).toList

theorem Outcome.count_plainLine (o : Outcome) :
    o.plainLine.count '\n' = (Text.trimRight o.diagnostic).toList.count '\n' := by
  have hlabel : (o.tag.defaultLabel ++ ": ").toList.count '\n' = 0 := by
    cases o.tag <;> rfl
  rw [plainLine, String.toList_append, List.count_append, hlabel, Nat.zero_add, Text.count_asSentence]

/-- The text that was written to the streams, taken together, between the two worlds. -/
def World.textUntil (w w' : World U S) : List Char :=
  (w'.written.drop w.written.length).flatMap (·.2.toList)

theorem Reported.textUntil_eq {r : Reporting} {os : List Outcome} {w w' : World U S} (h : Reported r os w w')
    (hr : ∀ t, labelFor r.labels t = t.defaultLabel) :
    w.textUntil w' = (os.map Outcome.plainLine).flatMap (· ++ ['\n']) := by
  rw [World.textUntil, h.all, List.drop_left, List.flatMap_map, List.flatMap_map]
  refine List.flatMap_congr fun o _ => ?_
  rw [String.toList_append, Outcome.line, hr]
  rfl

/-! ## Runs that come to a result -/

/-- The outcomes are in order those of the examples, each from the world in which its example was run. -/
def Runner.Outcomes (R : Runner U S) : List (Example (Value U)) → List Outcome → Prop :=
  List.Forall₂ fun x o => ∃ w w', R.run x w = (.done o, w')

theorem Runner.Ran.outcomes {R : Runner U S} {r : Reporting} {xs : List (Example (Value U))} {os : List Outcome}
    {w w' : World U S} (h : R.Ran r xs w os w') : R.Outcomes xs os := by
  induction h with
  | nil => exact .nil
  | cons hx _ _ ih => exact .cons ⟨_, _, hx⟩ ih

namespace Engine

variable (e : Engine U S) {r : Reporting} {root : Nat} {w w' : World U S} {y y' : Tally}

/-- A run that is stopped and comes to a result nevertheless writes nothing more. -/
theorem halt_done {o : Outcome} (a : quietFrame.Alike e e) (h : e.halt root o y w = (.done y', w')) :
    y' = y ∧ w'.written = w.written := by
  rw [halt, Action.get_bind_apply] at h
  obtain ⟨t, w₁, hs, h⟩ := Action.bind_done_iff.mp h
  obtain ⟨⟨⟩, w₂, hn, h⟩ := Action.bind_done_iff.mp h
  have hw₁ := (a.step (e.surface.groupText w.forest root) w trivial).2.2
  have hw₂ := (a.notice (pure (.haltingRun t o.description)) w₁ trivial).2.2
  rw [hs] at hw₁
  rw [hn] at hw₂
  cases h
  exact ⟨rfl, hw₂.trans hw₁⟩

/-- A run that comes to a result has executed the first examples of the walk, and their outcomes were reported. -/
theorem drive_done {R : Runner U S} {limit : Nat} (a : quietFrame.Alike e e) (hf : w.forest.WellFormed)
    (hc : w.forest.ClosedBelow root) (hl : (w.forest.walk root).length < limit)
    (h : e.drive r R.run limit root w = (.done y, w')) :
    ∃ xs os, xs <+: w.forest.walk root ∧ R.Outcomes xs os ∧ y = Tally.of os ∧ Reported r os w w' := by
  obtain ⟨before, after, os, w₁, hwalk, hran, hlast⟩ :=
    e.runFrom_law root (r := r) (R := R) (y := .empty) (Forest.yields_walk hf hc) (.refl w.forest) hl
  cases after with
  | nil =>
    cases hlast.symm.trans h
    exact ⟨before, os, ⟨[], hwalk.symm⟩, hran.outcomes, rfl, hran.reported⟩
  | cons x after =>
    have hsilent := R.silent x w₁
    rcases hx : R.run x w₁ with ⟨o | err | _, w₂⟩
    all_goals
      rw [hx] at hsilent
      simp only [hx] at hlast
    · obtain ⟨-, hd⟩ := hlast
      obtain ⟨rfl, hw'⟩ := e.halt_done a (hd.symm.trans h)
      refine ⟨before ++ [x], os ++ [o], ⟨after, by simp [hwalk]⟩, ?_, rfl, ?_⟩
      · exact List.rel_append hran.outcomes (.cons ⟨w₁, w₂, hx⟩ .nil)
      · exact ((hran.reported.quiet hsilent).trans (.one o)).quiet hw'
    · cases hlast.symm.trans h
    · cases hlast.symm.trans h

end Engine

/-- What is found on the streams after a run that comes to a result, under the default labels. The text that was written
is one line for each example that was executed, in order, each with its label, its diagnostic as a sentence and a line
feed at its end. Split at its line feeds it falls into what the single lines fall into, and an empty end; so there is
one line for each executed example, and one more for each line feed inside a diagnostic. Every line is whole exactly
when no diagnostic holds a line feed before its last character that is no blank. -/
theorem Host.lines_of_run (h : Host U S) (n : Nat) (R : Runner U S) (r : Reporting) {root limit : Nat}
    {w w' : World U S} {y : Tally} (hr : ∀ t, labelFor r.labels t = t.defaultLabel) (hf : w.forest.WellFormed)
    (hc : w.forest.ClosedBelow root) (hl : (w.forest.walk root).length < limit)
    (hrun : (h.engine n).drive r R.run limit root w = (.done y, w')) :
    ∃ xs os, xs <+: w.forest.walk root ∧ R.Outcomes xs os ∧ os.length = y.executed ∧
      w.textUntil w' = (os.map Outcome.plainLine).flatMap (· ++ ['\n']) ∧
      (w.textUntil w').splitOn '\n' = (os.map Outcome.plainLine).flatMap (·.splitOn '\n') ++ [[]] ∧
      ((w.textUntil w').splitOn '\n').length =
        y.executed + (os.map fun o => (Text.trimRight o.diagnostic).toList.count '\n').sum + 1 ∧
      ((w.textUntil w').splitOn '\n' = os.map Outcome.plainLine ++ [[]] ↔
        ∀ o ∈ os, '\n' ∉ (Text.trimRight o.diagnostic).toList) := by
  obtain ⟨xs, os, hxs, hos, rfl, hrep⟩ := (h.engine n).drive_done (quietFrame.alike_engine h n) hf hc hl hrun
  have hexecuted : (Tally.of os).executed = os.length := (Tally.sums_of os).executed
  have htext := hrep.textUntil_eq hr
  have hsplit : (w.textUntil w').splitOn '\n' = (os.map Outcome.plainLine).flatMap (·.splitOn '\n') ++ [[]] := by
    rw [htext, Text.splitOn_lines]
  refine ⟨xs, os, hxs, hos, hexecuted.symm, htext, hsplit, ?_, ?_⟩
  · have hcounts : (os.map Outcome.plainLine).map (·.count '\n') =
        os.map fun o => (Text.trimRight o.diagnostic).toList.count '\n' := by
      rw [List.map_map]
      exact List.map_congr_left fun o _ => o.count_plainLine
    rw [hsplit, List.length_append, Text.length_splitOn_lines, hcounts, List.length_map, hexecuted]
    rfl
  · rw [hsplit, List.append_cancel_right_eq, Text.flatMap_splitOn_eq_iff, List.forall_mem_map]
    refine forall₂_congr fun o _ => ?_
    rw [← List.count_eq_zero, ← List.count_eq_zero, o.count_plainLine]

/-- Every example fails with a text of two lines. -/
def tornCode : NumberedCode := fun _ _ => .raise (.failure (.text "torn\nin two"))

/-- The run of one example whose diagnostic has two lines: splitting finds as many lines as it must. -/
theorem lines_of_run_torn :
    ∃ y w', ∃ os : List Outcome, ((Host.numbers (fun _ => false) tornCode).engine 1).runTree ⟨[], false⟩ .standard 2 0
        (singleWorld .absent) = (.done y, w') ∧ os.length = y.executed ∧
      (((singleWorld .absent).textUntil w').splitOn '\n').length =
        y.executed + (os.map fun o => (Text.trimRight o.diagnostic).toList.count '\n').sum + 1 := by
  obtain ⟨y, w', hrun⟩ : ∃ y w', ((Host.numbers (fun _ => false) tornCode).engine 1).runTree ⟨[], false⟩ .standard 2 0
      (singleWorld .absent) = (.done y, w') := ⟨_, _, rfl⟩
  obtain ⟨xs, os, -, -, hos, -, -, hlength, -⟩ := Host.lines_of_run (Host.numbers (fun _ => false) tornCode) 1
    (.standard _ 1 .standard) ⟨[], false⟩ (fun _ => rfl) (Forest.single_wellFormed .absent)
    (Forest.single_closedBelow .absent) (by decide +kernel) hrun
  exact ⟨y, w', os, hrun, hos, hlength⟩

/-- One example is executed, and two lines are found. -/
theorem two_lines_of_one_example :
    let ran := ((Host.numbers (fun _ => false) tornCode).engine 2).runTree ⟨[], false⟩ .standard 2 0 (singleWorld .absent)
    (∃ y, ran.1 = .done y ∧ y.executed = 1) ∧
    ((singleWorld .absent).textUntil ran.2).splitOn '\n' = ["Failure: torn".toList, "in two.".toList, []] :=
  ⟨⟨_, rfl, rfl⟩, by decide +kernel⟩

end Exemplar

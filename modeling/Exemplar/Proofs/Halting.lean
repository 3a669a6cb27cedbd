import Exemplar.Proofs.Frame
import Exemplar.Proofs.Numbers
import Exemplar.Proofs.Walk
import Mathlib.Algebra.GroupWithZero.Nat

/-!
# Exemplar.Proofs.Halting — a run stops at the first failure

The examples of a closed tree are run in the order in which they were declared, whoever runs them, and each outcome is
reported before the next example is run. Nothing runs after an outcome that stops the run, or after an error that is no
outcome, so the run ends in the world that these leave behind, but for one notice. The result tells how many outcomes of
each class were reported; each was written to the stream of its class.

* `Tally.sums_of`: the counts of a run.
* `Runner.Ran`: the examples that were run and reported without stopping the run.
* `runFrom_law`: how far a run comes from any place on, and how it goes on from there.
* `drive_law`: the whole of it for the run of a closed tree.
-/

namespace Exemplar

variable {U S : Type}

/-! ## Counts -/

namespace Tally

/-- The tally is that of these outcomes. -/
structure Sums (y : Tally) (os : List Outcome) : Prop where
  executed : y.executed = os.length
  count (t : Tag) : y.count t = os.countP (·.tag = t)
  positive : ∀ p ∈ y.counts, 0 < p.2
  total : (y.counts.map (·.2)).sum = y.executed

/-- The tally after these outcomes. -/
def of (os : List Outcome) : Tally := os.foldl Tally.add .empty

theorem find?_increment (t u : Tag) (counts : List (Tag × Nat)) :
    (((increment t counts).find? fun p => p.1 == u).map (·.2)).getD 0 =
      ((counts.find? fun p => p.1 == u).map (·.2)).getD 0 + if t = u then 1 else 0 := by
  induction counts with
  | nil =>
    by_cases h : t = u
    · simp [increment, h]
    · simp [increment, h]
  | cons p r ih =>
    obtain ⟨v, n⟩ := p
    unfold increment
    by_cases hv : v = t
    · subst hv
      by_cases h : v = u
      · simp [h]
      · simp [h]
    · rw [if_neg hv]
      by_cases h : v = u
      · subst h
        simp [Ne.symm hv]
      · simp only [List.find?_cons, beq_eq_false_iff_ne.mpr h]
        exact ih

theorem sum_increment (t : Tag) (counts : List (Tag × Nat)) :
    ((increment t counts).map (·.2)).sum = (counts.map (·.2)).sum + 1 := by
  induction counts with
  | nil => rfl
  | cons p r ih =>
    unfold increment
    split
    · simp only [List.map_cons, List.sum_cons]
      omega
    · simp only [List.map_cons, List.sum_cons, ih]
      omega

theorem positive_increment {t : Tag} {counts : List (Tag × Nat)} (h : ∀ p ∈ counts, 0 < p.2) :
    ∀ p ∈ increment t counts, 0 < p.2 := by
  induction counts with
  | nil => simp [increment]
  | cons q r ih =>
    have hr (p : Tag × Nat) (hp : p ∈ r) : 0 < p.2 := h p (List.mem_cons_of_mem _ hp)
    intro p hp
    unfold increment at hp
    split at hp
    · rcases List.mem_cons.mp hp with rfl | hp
      · exact Nat.succ_pos _
      · exact hr p hp
    · rcases List.mem_cons.mp hp with rfl | hp
      · exact h _ (List.mem_cons_self ..)
      · exact ih hr p hp

theorem Sums.add {y : Tally} {os : List Outcome} (h : y.Sums os) (o : Outcome) : (y.add o).Sums (os ++ [o]) where
  executed := by
    rw [List.length_append, ← h.executed]
    rfl
  count t := by
    have hc := h.count t
    unfold Tally.count at hc ⊢
    rw [List.countP_append, ← hc]
    show (((increment o.tag y.counts).find? _).map _).getD 0 = _
    rw [find?_increment]
    by_cases ht : o.tag = t
    · simp [ht]
    · simp [ht]
  positive := positive_increment h.positive
  total := by
    show ((increment o.tag y.counts).map (·.2)).sum = y.executed + 1
    rw [sum_increment, h.total]

theorem of_concat (os : List Outcome) (o : Outcome) : of (os ++ [o]) = (of os).add o := List.foldl_concat _ _ _ _

theorem sums_of (os : List Outcome) : (of os).Sums os := by
  induction os using List.reverseRecOn with
  | nil => exact ⟨rfl, fun _ => rfl, by simp [of, empty], rfl⟩
  | append_singleton os o ih =>
    rw [of_concat]
    exact ih.add o

/-- As long as no outcome stops the run, none is told to have done so. -/
theorem halting_of {os : List Outcome} (h : ∀ o ∈ os, o.halts = false) : (of os).halting = none := by
  induction os using List.reverseRecOn with
  | nil => rfl
  | append_singleton os o ih =>
    rw [of_concat]
    have ho : o.halts = false := h o (by simp)
    show (if o.halts then some o else (of os).halting) = none
    rw [if_neg (by simp [ho])]
    exact ih fun o' ho' => h o' (List.mem_append_left _ ho')

/-- The outcomes of the classes that stop a run are those that stop it. -/
theorem Sums.halts {y : Tally} {os : List Outcome} (h : y.Sums os) :
    y.count .failed + y.count .errored = os.countP (·.halts) := by
  rw [h.count, h.count]
  clear h
  induction os with
  | nil => rfl
  | cons o r ih =>
    rw [List.countP_cons, List.countP_cons, List.countP_cons, ← ih]
    cases ht : o.tag <;> simp [Outcome.halts, ht, Tag.halts] <;> omega

end Tally

/-! ## What is written -/

namespace World

/-- Everything that was written, each piece with its stream, in order. -/
def written (w : World U S) : List (Stream × String) :=
  w.journal.toList.filterMap fun
    | .wrote stream t => some (stream, t)
    | _ => none

/-- What the code of the specification has noted, in order. -/
def notes (w : World U S) : List (List (Value U)) :=
  w.journal.toList.filterMap fun
    | .note vs => some vs
    | _ => none

/-- The pieces written to one stream. -/
def writtenTo (w : World U S) (stream : Stream) : List String :=
  w.written.filterMap fun p => if p.1 = stream then some p.2 else none

/-- The world in which an outcome has been reported. -/
def reported (w : World U S) (r : Reporting) (o : Outcome) : World U S :=
  w.record (.wrote (r.streamFor o.tag) (o.line r.labels ++ "\n"))

theorem written_record (w : World U S) {e : Event (Value U)} (h : ∀ stream t, e ≠ .wrote stream t) :
    (w.record e).written = w.written := by
  unfold written record
  rw [Array.toList_push, List.filterMap_append]
  cases e with
  | wrote stream t => exact absurd rfl (h stream t)
  | _ => exact List.append_nil _

theorem written_noticed (w : World U S) (n : Notice) : (w.noticed n).written = w.written := by
  unfold noticed
  split
  · exact w.written_record fun stream t => nofun
  · rfl

theorem written_reported (w : World U S) (r : Reporting) (o : Outcome) :
    (w.reported r o).written = w.written ++ [(r.streamFor o.tag, o.line r.labels ++ "\n")] := by
  unfold written reported record
  rw [Array.toList_push, List.filterMap_append]
  rfl

end World

/-- Between the two worlds just these outcomes were reported: everything that was written in order, what the stream of
passed examples received, and what the stream of all others received. -/
structure Reported (r : Reporting) (os : List Outcome) (w w' : World U S) : Prop where
  all : w'.written = w.written ++ os.map fun o => (r.streamFor o.tag, o.line r.labels ++ "\n")
  passed : w'.writtenTo (r.streamFor .passed) = w.writtenTo (r.streamFor .passed) ++
    (os.filter (·.tag = .passed)).map fun o => o.line r.labels ++ "\n"
  others : w'.writtenTo (r.streamFor .failed) = w.writtenTo (r.streamFor .failed) ++
    (os.filter (·.tag ≠ .passed)).map fun o => o.line r.labels ++ "\n"

namespace Reported

variable {r : Reporting} {os : List Outcome} {w w' w'' : World U S}

theorem of_written (h : w'.written = w.written ++ os.map fun o => (r.streamFor o.tag, o.line r.labels ++ "\n")) :
    Reported r os w w' := by
  have hto (stream : Stream) : w'.writtenTo stream = w.writtenTo stream ++
      (os.filter fun o => r.streamFor o.tag = stream).map fun o => o.line r.labels ++ "\n" := by
    unfold World.writtenTo
    rw [h, List.filterMap_append, List.filterMap_map, ← List.filterMap_eq_filter, List.map_filterMap]
    refine congrArg (_ ++ ·) (List.filterMap_congr fun o _ => ?_)
    by_cases ho : r.streamFor o.tag = stream
    · simp [ho]
    · simp [ho, Option.guard]
  refine ⟨h, ?_, ?_⟩
  · rw [hto]
    refine congrArg (fun l => _ ++ List.map _ l) (List.filter_congr fun o _ => ?_)
    cases ho : o.tag <;> cases hc : r.console <;> simp [Reporting.streamFor, hc]
  · rw [hto]
    refine congrArg (fun l => _ ++ List.map _ l) (List.filter_congr fun o _ => ?_)
    cases ho : o.tag <;> cases hc : r.console <;> simp [Reporting.streamFor, hc]

theorem nil (h : w'.written = w.written) : Reported r [] w w' := .of_written (by simp [h])

theorem one (o : Outcome) : Reported r [o] w (w.reported r o) := .of_written (w.written_reported r o)

theorem trans {os' : List Outcome} (h : Reported r os w w') (h' : Reported r os' w' w'') :
    Reported r (os ++ os') w w'' := .of_written (by rw [h'.all, h.all, List.map_append, List.append_assoc])

theorem quiet (h : Reported r os w w') (hw : w''.written = w'.written) : Reported r os w w'' :=
  .of_written (hw.trans h.all)

end Reported

/-! ## Whoever runs the examples -/

/-- A way to run examples, be it the library's own or another one: each ends with an outcome or an error. It cannot
change a group that is closed, and writes nothing to the streams of the reports. -/
structure Runner (U S : Type) where
  run : Example (Value U) → Run U S Outcome
  grows (x : Example (Value U)) (w : World U S) : w.forest.Grows (run x w).2.forest
  silent (x : Example (Value U)) (w : World U S) : (run x w).2.written = w.written

/-- Forests that grow, and streams that nothing is written to, as a frame. -/
def quietFrame : Frame U S where
  holds _ := True
  leads w w' := w.forest.Grows w'.forest ∧ w'.written = w.written
  refl _ := ⟨.refl _, rfl⟩
  trans h h' := ⟨h.1.trans h'.1, h'.2.trans h.2⟩
  stays _ _ := trivial
  outside _ _ := ⟨.refl _, rfl⟩
  tells w _ he := ⟨.refl _, w.written_record he⟩
  counts _ := ⟨.refl _, rfl⟩
  recorders _ _ _ := ⟨.refl _, rfl⟩
  declares _ hd := ⟨hd.grows, rfl⟩
  succeeds _ _ _ _ _ := ⟨.refl _, rfl⟩
  opens _ _ _ := ⟨.refl _, rfl⟩
  computes _ _ _ _ _ := ⟨trivial, fun _ h => ⟨h, fun _ => h⟩⟩

/-- Well-formed forests, as a frame. -/
def treeFrame : Frame U S where
  holds w := w.forest.WellFormed
  leads w w' := w.forest.WellFormed → w'.forest.WellFormed
  refl _ := id
  trans h h' := h' ∘ h
  stays hw h := h hw
  outside _ _ := id
  tells _ _ _ := id
  counts _ := id
  recorders _ _ _ := id
  declares _ hd h := h.declares hd
  succeeds _ _ _ _ _ := id
  opens _ _ _ := id
  computes hw _ _ _ _ := ⟨hw, fun _ h => ⟨h, fun _ => h⟩⟩

/-- Only well-formed forests come about. -/
theorem World.wellFormed_of_reached {h : Host U S} {w : World U S} (hw : h.Reached w) : w.forest.WellFormed :=
  treeFrame.holds_of_reached ⟨fun _ description target h => h.addRoot description target, fun _ _ _ => id⟩
    (fun _ _ => .empty) hw

namespace Runner

/-- The library's own way to run examples, whatever code they bring. -/
def standard (h : Host U S) (n : Nat) (ev : Evaluator (Value U)) : Runner U S where
  run := (h.engine n).runExample ev
  grows x w := ((quietFrame.alike_engine h n).runExample ev x w trivial).2.1
  silent x w := ((quietFrame.alike_engine h n).runExample ev x w trivial).2.2

/-- From the first world on the examples were run one after the other, with these outcomes, none of which stops a run;
each was reported before the next example was run. -/
inductive Ran (R : Runner U S) (r : Reporting) : List (Example (Value U)) → World U S → List Outcome → World U S → Prop
  | nil {w : World U S} : Ran R r [] w [] w
  | cons {x : Example (Value U)} {xs : List (Example (Value U))} {o : Outcome} {os : List Outcome} {w w₁ w' : World U S}
    (hx : R.run x w = (.done o, w₁)) (ho : o.halts = false) (h : Ran R r xs (w₁.reported r o) os w') :
    Ran R r (x :: xs) w (o :: os) w'

namespace Ran

variable {R : Runner U S} {r : Reporting} {xs : List (Example (Value U))} {os : List Outcome} {w w' : World U S}

theorem reported (h : R.Ran r xs w os w') : Reported r os w w' := by
  induction h with
  | nil => exact .nil rfl
  | @cons x xs o os w w₁ w' hx ho h ih =>
    have hs := R.silent x w
    rw [hx] at hs
    exact (((Reported.nil rfl).quiet hs).trans (.one o)).trans ih

theorem grows (h : R.Ran r xs w os w') : w.forest.Grows w'.forest := by
  induction h with
  | nil => exact .refl _
  | @cons x xs o os w w₁ w' hx ho h ih =>
    have hg := R.grows x w
    rw [hx] at hg
    exact hg.trans ih

theorem length_eq (h : R.Ran r xs w os w') : xs.length = os.length := by
  induction h with
  | nil => rfl
  | cons hx ho h ih => rw [List.length_cons, List.length_cons, ih]

theorem goes_on (h : R.Ran r xs w os w') : ∀ o ∈ os, o.halts = false := by
  induction h with
  | nil => simp
  | cons hx ho h ih => exact List.forall_mem_cons.mpr ⟨ho, ih⟩

end Ran
end Runner

/-! ## Runs -/

namespace Engine

variable (e : Engine U S)

/-- What is done when an outcome stops a run that comes to `y`: the root is put into words for a notice. -/
def halt (root : Nat) (o : Outcome) (y : Tally) : Run U S Tally := do
  let w ← Action.get
  let text ← e.step (e.surface.groupText w.forest root)
  e.notice (pure (.haltingRun text o.description))
  pure y

variable {r : Reporting} {R : Runner U S} {root n : Nat} {c c' : Forest.Cursor} {y : Tally} {w w' : World U S}
  {x : Example (Value U)}

theorem runFrom_of_none (hc : w.forest.next? c = none) : e.runFrom r R.run root (n + 1) c y w = (.done y, w) := by
  rw [runFrom, Action.get_bind_apply, hc]
  rfl

theorem runFrom_of_done {o : Outcome} (hc : w.forest.next? c = some (x, c')) (hx : R.run x w = (.done o, w'))
    (ho : o.halts = false) :
    e.runFrom r R.run root (n + 1) c y w = e.runFrom r R.run root n c' (y.add o) (w'.reported r o) := by
  rw [runFrom, Action.get_bind_apply, hc]
  dsimp only
  rw [Action.bind_done hx, ho]
  rfl

theorem runFrom_of_halts {o : Outcome} (hc : w.forest.next? c = some (x, c')) (hx : R.run x w = (.done o, w'))
    (ho : o.halts = true) :
    e.runFrom r R.run root (n + 1) c y w = e.halt root o (y.add o) (w'.reported r o) := by
  rw [runFrom, Action.get_bind_apply, hc]
  dsimp only
  rw [Action.bind_done hx, ho]
  rfl

theorem runFrom_of_raised {err : Exn (Value U)} (hc : w.forest.next? c = some (x, c'))
    (hx : R.run x w = (.raised err, w')) : e.runFrom r R.run root (n + 1) c y w = (.raised err, w') := by
  rw [runFrom, Action.get_bind_apply, hc]
  exact Action.bind_raised hx

theorem runFrom_of_exhausted (hc : w.forest.next? c = some (x, c')) (hx : R.run x w = (.exhausted, w')) :
    e.runFrom r R.run root (n + 1) c y w = (.exhausted, w') := by
  rw [runFrom, Action.get_bind_apply, hc]
  exact Action.bind_exhausted hx

/-- From a place from which the searches find certain examples, the first ones run without stopping the run; then
either none is left, or the next one ends the run in one of three ways. -/
theorem runFrom_law (root : Nat) {f : Forest (Value U)} {xs : List (Example (Value U))} (hf : f.Yields c xs)
    (hg : f.Grows w.forest) (hn : xs.length < n) :
    ∃ before after os w₁, xs = before ++ after ∧ R.Ran r before w os w₁ ∧
      match after with
      | [] => e.runFrom r R.run root n c y w = (.done (os.foldl Tally.add y), w₁)
      | x :: _ =>
        match R.run x w₁ with
        | (.raised err, w₂) => e.runFrom r R.run root n c y w = (.raised err, w₂)
        | (.exhausted, w₂) => e.runFrom r R.run root n c y w = (.exhausted, w₂)
        | (.done o, w₂) => o.halts = true ∧
          e.runFrom r R.run root n c y w = e.halt root o ((os ++ [o]).foldl Tally.add y) (w₂.reported r o) := by
  induction xs generalizing n c y w with
  | nil =>
    obtain ⟨k, rfl⟩ : ∃ k, n = k + 1 := ⟨n - 1, by simp at hn; omega⟩
    cases hf with
    | nil hnone => exact ⟨[], [], [], w, rfl, .nil, e.runFrom_of_none (hnone _ hg)⟩
  | cons x xs ih =>
    obtain ⟨k, rfl⟩ : ∃ k, n = k + 1 := ⟨n - 1, by omega⟩
    cases hf with
    | cons hsome hrest =>
      have hnext := hsome _ hg
      have hgrow := R.grows x w
      rcases hx : R.run x w with ⟨o | err | _, w'⟩
      · cases ho : o.halts with
        | true =>
          refine ⟨[], x :: xs, [], w, rfl, .nil, ?_⟩
          simp only [hx]
          exact ⟨ho, e.runFrom_of_halts hnext hx ho⟩
        | false =>
          rw [hx] at hgrow
          rw [List.length_cons] at hn
          obtain ⟨before, after, os, w₁, rfl, hran, hlast⟩ :=
            ih (n := k) (y := y.add o) (w := w'.reported r o) hrest (hg.trans hgrow) (by omega)
          refine ⟨x :: before, after, o :: os, w₁, rfl, .cons hx ho hran, ?_⟩
          rw [e.runFrom_of_done hnext hx ho]
          exact hlast
      · refine ⟨[], x :: xs, [], w, rfl, .nil, ?_⟩
        simp only [hx]
        exact e.runFrom_of_raised hnext hx
      · refine ⟨[], x :: xs, [], w, rfl, .nil, ?_⟩
        simp only [hx]
        exact e.runFrom_of_exhausted hnext hx

/-- Once the root has been put into words, a run that is stopped comes to its result, with a notice at most. -/
theorem halt_of_done {o : Outcome} {t : String}
    (hs : e.step (e.surface.groupText w.forest root) w = (.done t, w')) :
    e.halt root o y w = (.done y, w'.noticed (.haltingRun t o.description)) := by
  rw [halt, Action.get_bind_apply, Action.bind_done hs, Action.bind_done (e.notice_pure _ w')]
  rfl

theorem halt_of_raised {o : Outcome} {err : Exn (Value U)}
    (hs : e.step (e.surface.groupText w.forest root) w = (.raised err, w')) :
    e.halt root o y w = (.raised err, w') := by
  rw [halt, Action.get_bind_apply, Action.bind_raised hs]

theorem halt_of_exhausted {o : Outcome} (hs : e.step (e.surface.groupText w.forest root) w = (.exhausted, w')) :
    e.halt root o y w = (.exhausted, w') := by
  rw [halt, Action.get_bind_apply, Action.bind_exhausted hs]

theorem driveOrExit_of_done {runOne : Example (Value U) → Run U S Outcome} {limit : Nat}
    (h : e.drive r runOne limit root w = (.done y, w')) :
    e.driveOrExit r runOne limit root w = if y.halted then (.raised (.exit 1), w') else (.done y, w') := by
  rw [driveOrExit, Action.bind_done h]
  split <;> rfl

/-- A run goes on behind the examples that ran without stopping it. -/
theorem runFrom_of_ran {f : Forest (Value U)} {before after : List (Example (Value U))} {os : List Outcome}
    {w₁ : World U S} (hran : R.Ran r before w os w₁) (hf : f.Yields c (before ++ after)) (hg : f.Grows w.forest) :
    ∃ c', f.Yields c' after ∧ e.runFrom r R.run root (before.length + n) c y w =
      e.runFrom r R.run root n c' (os.foldl Tally.add y) w₁ := by
  induction hran generalizing c y with
  | nil => exact ⟨c, hf, by rw [List.length_nil, Nat.zero_add]; rfl⟩
  | @cons x xs o os w w₁ w' hx ho h ih =>
    cases hf with
    | cons hsome hrest =>
      have hgrow := R.grows x w
      rw [hx] at hgrow
      obtain ⟨c', hc', hrun⟩ := ih (y := y.add o) hrest (hg.trans hgrow)
      refine ⟨c', hc', ?_⟩
      rw [List.length_cons, Nat.add_right_comm, e.runFrom_of_done (hsome _ hg) hx ho]
      exact hrun

/-- An error with which an example ends ends the run, and just the outcomes before it are reported. -/
theorem drive_of_raised {before after : List (Example (Value U))} {os : List Outcome} {limit : Nat}
    {w₁ w₂ : World U S} {err : Exn (Value U)} (hf : w.forest.WellFormed) (hc : w.forest.ClosedBelow root)
    (hwalk : w.forest.walk root = before ++ x :: after) (hl : before.length < limit) (hran : R.Ran r before w os w₁)
    (hx : R.run x w₁ = (.raised err, w₂)) :
    e.drive r R.run limit root w = (.raised err, w₂) ∧ e.driveOrExit r R.run limit root w = (.raised err, w₂) ∧
      Reported r os w w₂ := by
  obtain ⟨k, rfl⟩ : ∃ k, limit = before.length + (k + 1) := ⟨limit - before.length - 1, by omega⟩
  have hyields := Forest.yields_walk hf hc
  rw [hwalk] at hyields
  obtain ⟨c', hc', hrun⟩ := e.runFrom_of_ran (n := k + 1) (y := .empty) hran hyields (.refl _)
  have hd : e.drive r R.run (before.length + (k + 1)) root w = (.raised err, w₂) := by
    cases hc' with
    | cons hsome _ => exact hrun.trans (e.runFrom_of_raised (hsome _ hran.grows) hx)
  have hs := R.silent x w₁
  rw [hx] at hs
  exact ⟨hd, Action.bind_raised hd, hran.reported.quiet hs⟩

end Engine

/-- How a run of a closed tree goes: the examples run in the order of the walk, each outcome is reported before the
next example runs, and nothing runs any more after the first outcome that stops the run or the first error. Without
either the result tells the outcomes of all examples. After an error just the outcomes before it are reported, and the
error is the ending. When an outcome stops the run it is reported too and the root is put into words; if that works the
result tells all outcomes up to this one, and otherwise its error is the ending. The world at the end is always the one
in which the last of these steps has ended, with a notice of the halt at most. -/
theorem drive_law (h : Host U S) (n : Nat) (R : Runner U S) (r : Reporting) {w : World U S} {root limit : Nat}
    (hf : w.forest.WellFormed) (hc : w.forest.ClosedBelow root) (hl : (w.forest.walk root).length < limit) :
    ∃ before after os w₁, w.forest.walk root = before ++ after ∧ R.Ran r before w os w₁ ∧ Reported r os w w₁ ∧
      match after with
      | [] => ∃ y, y.Sums os ∧ y.halting = none ∧ y.count .failed + y.count .errored = 0 ∧
          (h.engine n).drive r R.run limit root w = (.done y, w₁) ∧
          (h.engine n).driveOrExit r R.run limit root w = (.done y, w₁)
      | x :: _ =>
        match R.run x w₁ with
        | (.raised err, w₂) => Reported r os w w₂ ∧
            (h.engine n).drive r R.run limit root w = (.raised err, w₂) ∧
            (h.engine n).driveOrExit r R.run limit root w = (.raised err, w₂)
        | (.exhausted, w₂) => Reported r os w w₂ ∧
            (h.engine n).drive r R.run limit root w = (.exhausted, w₂) ∧
            (h.engine n).driveOrExit r R.run limit root w = (.exhausted, w₂)
        | (.done o, w₂) => o.halts = true ∧ Reported r (os ++ [o]) w (w₂.reported r o) ∧
            match (h.engine n).step (h.toSurface.groupText w₂.forest root) (w₂.reported r o) with
            | (.done t, w₃) => Reported r (os ++ [o]) w (w₃.noticed (.haltingRun t o.description)) ∧
                ∃ y, y.Sums (os ++ [o]) ∧ y.halting = some o ∧ y.count .failed + y.count .errored = 1 ∧
                  (h.engine n).drive r R.run limit root w = (.done y, w₃.noticed (.haltingRun t o.description)) ∧
                  (h.engine n).driveOrExit r R.run limit root w =
                    (.raised (.exit 1), w₃.noticed (.haltingRun t o.description))
            | (.raised err, w₃) => Reported r (os ++ [o]) w w₃ ∧
                (h.engine n).drive r R.run limit root w = (.raised err, w₃) ∧
                (h.engine n).driveOrExit r R.run limit root w = (.raised err, w₃)
            | (.exhausted, w₃) => Reported r (os ++ [o]) w w₃ ∧
                (h.engine n).drive r R.run limit root w = (.exhausted, w₃) ∧
                (h.engine n).driveOrExit r R.run limit root w = (.exhausted, w₃) := by
  obtain ⟨before, after, os, w₁, hwalk, hran, hlast⟩ := (h.engine n).runFrom_law root (r := r) (R := R)
    (y := .empty) (Forest.yields_walk hf hc) (.refl w.forest) hl
  refine ⟨before, after, os, w₁, hwalk, hran, hran.reported, ?_⟩
  cases after with
  | nil =>
    have hnone : (Tally.of os).halting = none := Tally.halting_of hran.goes_on
    have hzero : os.countP (·.halts) = 0 := List.countP_eq_zero.mpr fun o ho => by simp [hran.goes_on o ho]
    have hd : (h.engine n).drive r R.run limit root w = (.done (Tally.of os), w₁) := hlast
    refine ⟨Tally.of os, Tally.sums_of os, hnone, (Tally.sums_of os).halts.trans hzero, hd, ?_⟩
    rw [(h.engine n).driveOrExit_of_done hd, Tally.halted, hnone]
    rfl
  | cons x rest =>
    have hsilent := R.silent x w₁
    rcases hx : R.run x w₁ with ⟨o | err | _, w₂⟩
    all_goals
      rw [hx] at hsilent
      simp only [hx] at hlast ⊢
    · obtain ⟨ho, hd⟩ := hlast
      have hrep : Reported r (os ++ [o]) w (w₂.reported r o) := (hran.reported.quiet hsilent).trans (.one o)
      refine ⟨ho, hrep, ?_⟩
      have htally : (os ++ [o]).foldl Tally.add .empty = Tally.of (os ++ [o]) := rfl
      rw [htally] at hd
      have hstep :=
        ((quietFrame.alike_engine h n).step (h.toSurface.groupText w₂.forest root) (w₂.reported r o) trivial).2.2
      rcases hs : (h.engine n).step (h.toSurface.groupText w₂.forest root) (w₂.reported r o) with ⟨t | err | _, w₃⟩
      all_goals rw [hs] at hstep
      · have hdone := hd.trans ((h.engine n).halt_of_done hs)
        have hhalting : (Tally.of (os ++ [o])).halting = some o := by
          rw [Tally.of_concat, Tally.add]
          simp [ho]
        have hone : (os ++ [o]).countP (·.halts) = 1 := by
          rw [List.countP_append, List.countP_eq_zero.mpr fun o ho => by simp [hran.goes_on o ho]]
          simp [ho]
        refine ⟨hrep.quiet ((w₃.written_noticed _).trans hstep), _, Tally.sums_of _, hhalting,
          (Tally.sums_of _).halts.trans hone, hdone, ?_⟩
        rw [(h.engine n).driveOrExit_of_done hdone, Tally.halted, hhalting]
        rfl
      · have herr := hd.trans ((h.engine n).halt_of_raised hs)
        exact ⟨hrep.quiet hstep, herr, Action.bind_raised herr⟩
      · have hout := hd.trans ((h.engine n).halt_of_exhausted hs)
        exact ⟨hrep.quiet hstep, hout, Action.bind_exhausted hout⟩
    · exact ⟨hran.reported.quiet hsilent, hlast, Action.bind_raised hlast⟩
    · exact ⟨hran.reported.quiet hsilent, hlast, Action.bind_exhausted hlast⟩

/-! ## Two runs -/

/-- In a well-formed forest of closed groups each tree is closed. -/
theorem Forest.WellFormed.closedBelow_of_all {V : Type} {f : Forest V} (h : f.WellFormed)
    (hs : f.groups.all (·.isSealed) = true) {root : Nat} (hr : root < f.groups.size) : f.ClosedBelow root := by
  have hthere {g : Nat} (hg : f.Below root g) : g < f.groups.size := by
    cases hg with
    | root => exact hr
    | child _ hc =>
      obtain ⟨gr, hgr, -⟩ := Option.bind_eq_some_iff.mp (h.entered hc)
      exact (Array.getElem?_eq_some_iff.mp hgr).1
  intro g hg
  exact ⟨_, Array.getElem?_eq_getElem (hthere hg), Array.all_eq_true.mp hs g (hthere hg)⟩

/-- A closed tree of one group with one example in it. -/
def Forest.single (description : Value Nat) : Forest (Value Nat) :=
  ⟨#[⟨description, none, none, true, [.example ⟨.absent, 0, 0, some (.user 0), .absent⟩], []⟩]⟩

theorem Forest.single_wellFormed (description : Value Nat) : (single description).WellFormed := by
  have hparent (c : Nat) : (single description).parent? c = none := by
    rcases c with _ | c <;> rfl
  have hchildren (g : Nat) : (single description).children g = [] := by
    rcases g with _ | g <;> rfl
  exact ⟨fun h => by simp [hparent] at h, fun h => by simp [hchildren] at h, fun g => by simp [hchildren]⟩

theorem Forest.single_closedBelow (description : Value Nat) : (single description).ClosedBelow 0 := by
  intro g hg
  have hzero : g = 0 := by
    induction hg with
    | root => rfl
    | child _ hc ih =>
      subst ih
      simp [children, entries, group?, single] at hc
  exact hzero ▸ ⟨_, rfl, rfl⟩

/-- An outcome that stops a run. -/
def failedOutcome : Outcome := ⟨.failed, "first", "expected 1 to eq 2"⟩

/-- Under this runner every example fails. -/
def Runner.failing : Runner Nat Unit where
  run _ w := (.done failedOutcome, w)
  grows _ _ := .refl _
  silent _ _ := rfl

/-- The world with a closed tree of one example, and nothing else in it. -/
def singleWorld (description : Value Nat) : World Nat Unit :=
  { World.initial () false with forest := .single description }

/-- The block under 1 declares an example, a group and one more example, and that under 2 a pending example and one that
fails. Each body notes its number. -/
def stoppedCode : NumberedCode
  | 1, [.builder g] => do
    Program.ask (.declare g (.example (.text "first") (.user 3)))
    Program.ask (.declare g (.group (.text "inner") (.user 2)))
    Program.ask (.declare g (.example (.text "last") (.user 5)))
    Pure.pure .absent
  | 2, [.builder g] => do
    Program.ask (.declare g (.pending (.text "second")))
    Program.ask (.declare g (.example (.text "third") (.user 4)))
    Pure.pure .absent
  | 4, _ => do
    Program.ask (.note [.user 4])
    Program.raise (.failure (.text "no"))
  | u, _ => do
    Program.ask (.note [.user u])
    Pure.pure .absent

/-- The host of this code. -/
def Host.stopped : Host Nat Unit := .numbers (fun _ => false) stoppedCode

/-- The world in which the block under 1 has declared its tree. -/
def stoppedWorld : World Nat Unit := ((Host.stopped.engine 4).buildGroup (.text "outer") (.user 1) (.initial () true)).2

/-- How the examples of this tree are run. -/
def Runner.stopped : Runner Nat Unit := .standard .stopped 4 .standard

/-- The run of this tree. -/
def stoppedRun : Ending (Exn (Value Nat)) Tally × World Nat Unit :=
  (Host.stopped.engine 4).drive ⟨[], false⟩ Runner.stopped.run 5 0 stoppedWorld

/-- Of four examples the first one passes, the next one is pending and the third one fails. These are reported, and the
body of the fourth one is not called. -/
theorem drive_law_stopped :
    (∃ before x after os o y w₁ w₂ t w₃, stoppedWorld.forest.walk 0 = before ++ x :: after ∧
      before.length = 2 ∧ after.length = 1 ∧ Runner.stopped.Ran ⟨[], false⟩ before stoppedWorld os w₁ ∧
      Runner.stopped.run x w₁ = (.done o, w₂) ∧ o.halts = true ∧
      (Host.stopped.engine 4).step (Host.stopped.toSurface.groupText w₂.forest 0) (w₂.reported ⟨[], false⟩ o) =
        (.done t, w₃) ∧
      stoppedRun = (.done y, w₃.noticed (.haltingRun t o.description)) ∧ y.Sums (os ++ [o]) ∧ y.halting = some o ∧
      Reported ⟨[], false⟩ (os ++ [o]) stoppedWorld stoppedRun.2 ∧
      (Host.stopped.engine 4).driveOrExit ⟨[], false⟩ Runner.stopped.run 5 0 stoppedWorld =
        (.raised (.exit 1), stoppedRun.2)) ∧
    stoppedRun.2.written = [(.out, "Success: first.\n"), (.err, "Warning: second.\n"), (.err, "Failure: no.\n")] ∧
    stoppedRun.2.notes.map (·.map numberOf?) = [[some 3], [some 4]] := by
  have hf : stoppedWorld.forest.WellFormed :=
    World.wellFormed_of_reached (.declare 4 (.text "outer") (.user 1) (.initial () true))
  have hc : stoppedWorld.forest.ClosedBelow 0 := hf.closedBelow_of_all (by decide +kernel) (by decide +kernel)
  have hlength : (stoppedWorld.forest.walk 0).length = 4 := by decide +kernel
  have hresult : (match stoppedRun.1 with | .done y => y.executed == 3 && y.halted | _ => false) = true := by
    decide +kernel
  refine ⟨?_, by decide +kernel, by decide +kernel⟩
  obtain ⟨before, after, os, w₁, hwalk, hran, -, hlast⟩ :=
    drive_law .stopped 4 .stopped ⟨[], false⟩ hf hc (show _ < 5 by rw [hlength]; decide)
  rw [← stoppedRun] at hlast
  rw [hwalk, List.length_append, hran.length_eq] at hlength
  cases after with
  | nil =>
    obtain ⟨y, -, hnone, -, hd, -⟩ := hlast
    simp [hd, hnone, Tally.halted] at hresult
  | cons x after =>
    rcases hx : Runner.stopped.run x w₁ with ⟨o | err | _, w₂⟩
    all_goals simp only [hx] at hlast
    · obtain ⟨ho, -, hlast⟩ := hlast
      rcases hs : (Host.stopped.engine 4).step (Host.stopped.toSurface.groupText w₂.forest 0)
        (w₂.reported ⟨[], false⟩ o) with ⟨t | err | _, w₃⟩
      all_goals simp only [hs] at hlast
      · obtain ⟨hrep, y, hsum, hhalting, -, hd, hexit⟩ := hlast
        have hthree : (os ++ [o]).length = 3 := by
          rw [← hsum.executed]
          simpa [hd, hhalting, Tally.halted] using hresult
        rw [List.length_append, List.length_singleton] at hthree
        rw [List.length_cons] at hlength
        have htwo : before.length = 2 := by
          rw [hran.length_eq]
          omega
        exact ⟨before, x, after, os, o, y, w₁, w₂, t, w₃, hwalk, htwo, by omega, hran, hx, ho, hs, hd, hsum, hhalting,
          hd ▸ hrep, hd ▸ hexit⟩
      · simp [hlast.2.1] at hresult
      · simp [hlast.2.1] at hresult
    · simp [hlast.2.1] at hresult
    · simp [hlast.2.1] at hresult

/-- A root that cannot be shown: the outcome that stops the run is reported, but the run comes to no result. -/
theorem drive_hidden_root :
    (singleWorld (.user 1)).forest.WellFormed ∧ (singleWorld (.user 1)).forest.ClosedBelow 0 ∧
    (∀ x w, Runner.failing.run x w = (.done failedOutcome, w)) ∧ failedOutcome.halts = true ∧
    ((Host.numbers (fun u => u == 1) fun _ _ => pure .absent).engine 1).drive ⟨[], false⟩ Runner.failing.run 2 0
        (singleWorld (.user 1)) =
      (.raised (.thrown (.user 1)), (singleWorld (.user 1)).reported ⟨[], false⟩ failedOutcome) ∧
    ¬ ∃ y w, ((Host.numbers (fun u => u == 1) fun _ _ => pure .absent).engine 1).drive ⟨[], false⟩
        Runner.failing.run 2 0 (singleWorld (.user 1)) = (.done y, w) := by
  refine ⟨Forest.single_wellFormed _, Forest.single_closedBelow _, fun _ _ => rfl, rfl, rfl, ?_⟩
  rintro ⟨y, w, h⟩
  cases h

end Exemplar

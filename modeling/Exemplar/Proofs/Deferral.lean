import Exemplar.Proofs.Bodies
import Exemplar.Proofs.Isolation
import Exemplar.Proofs.Leaving

/-!
# Exemplar.Proofs.Deferral — values at hand and deferred blocks

An expectation about the value of a block can be written in two ways: the block is called and the expectation is about
the value, or it is about the block and calls it while it is judged. If the matcher does not want the block itself, an
error of the block takes another way in the second form: it becomes the fault of a verdict and is raised again as such.
The outcome of the example does not tell the two apart.

* `Engine.evaluate_block_done`, `Engine.evaluate_block_exhausted`: a block is judged by what its call has come to.
* `Engine.conclude_fault`: a fault is told like the error that it wraps.
* `Engine.settle_require_block`: an expectation on a block ends an example as one on its value does.
* `Host.CannotTell.settle`: where code cannot tell two worlds apart, what is left of an example ends alike from both.
* `Host.deferred_ends_as_eager`: the same of whole examples, and of the subject of an example.
-/

namespace Exemplar

variable {U S α : Type}

/-! ## Two forms of an expectation -/

namespace Program

/-- Calls a block and expects something of its value. -/
def eager (id : Nat) (negate : Bool) (b : Value U) (m : Matcher (Value U)) : Program U S (Verdict (Value U)) :=
  .bind (.ask (.call b [])) fun v => .expecting id ⟨.value v, negate, m⟩

/-- Expects something of a block. -/
def deferred (id : Nat) (negate : Bool) (b : Value U) (m : Matcher (Value U)) : Program U S (Verdict (Value U)) :=
  .expecting id ⟨.block b, negate, m⟩

/-- A body that makes a block and a matcher, applies an expectation with them and goes on. -/
def around (make : Program U S (Value U × Matcher (Value U)))
    (expect : Value U → Matcher (Value U) → Program U S (Verdict (Value U)))
    (rest : Verdict (Value U) → Program U S (Value U)) : Program U S (Value U) :=
  .bind make fun p => .bind (expect p.1 p.2) rest

/-- The subject as an attribute of the scope. -/
def subject (id : Nat) : Program U S (Value U) :=
  .bind (.ask (.access id subjectName)) fun
    | .value v => .pure v
    | .member _ => .pure .absent

/-- Expects something of the subject, which is at hand. -/
def subjectAtHand (id : Nat) (negate : Bool) (m : Matcher (Value U)) : Program U S (Verdict (Value U)) :=
  .bind (subject id) fun v => .expecting id ⟨.value v, negate, m⟩

/-- A body that makes a matcher, expects something of the subject at hand and goes on. -/
def expectSubject (id : Nat) (negate : Bool) (make : Program U S (Matcher (Value U)))
    (rest : Verdict (Value U) → Program U S (Value U)) : Program U S (Value U) :=
  .bind make fun m => .bind (subjectAtHand id negate m) rest

/-- Makes a matcher, and then the function that computes the subject. -/
def makeSubject (id : Nat) (make : Program U S (Matcher (Value U))) : Program U S (Value U × Matcher (Value U)) :=
  .bind make fun m => .bind (.ask .serial) fun k => .pure (.subjectOf k id, m)

/-- A body that makes a matcher, expects something of the function that computes the subject, and goes on. -/
def isExpected (id : Nat) (negate : Bool) (make : Program U S (Matcher (Value U)))
    (rest : Verdict (Value U) → Program U S (Value U)) : Program U S (Value U) :=
  around (makeSubject id make) (deferred id negate) rest

end Program

/-! ## Judging a block -/

namespace Engine

variable (e : Engine U S) {m : Matcher (Value U)} {negate : Bool} {f v : Value U} {err : Exn (Value U)}
  {w asked called : World U S}

theorem judge_block_done (hq : e.wantsBlock m w = (.done false, asked)) (hc : e.call f [] asked = (.done v, called)) :
    e.judge (.block f) m w = e.judge (.value v) m called := by
  refine (Action.bind_done (Action.attempt_of_done hq)).trans ?_
  exact Action.bind_done (Action.attempt_of_done hc)

/-- A block that gives a value is judged as that value. -/
theorem evaluate_block_done (hq : e.wantsBlock m w = (.done false, asked))
    (hc : e.call f [] asked = (.done v, called)) :
    e.evaluate (.block f) negate m w = e.evaluate (.value v) negate m called := by
  rw [evaluate, evaluate, Action.bind_apply, Action.bind_apply, e.judge_block_done hq hc]

theorem evaluate_block_exhausted (hq : e.wantsBlock m w = (.done false, asked))
    (hc : e.call f [] asked = (.exhausted, called)) : e.evaluate (.block f) negate m w = (.exhausted, called) := by
  have hj : e.judge (.block f) m w = (.exhausted, called) := by
    rw [judge, Action.bind_done (Action.attempt_of_done hq)]
    refine Action.bind_exhausted ?_
    rw [Action.attempt_apply, hc]
  rw [evaluate, Action.bind_exhausted hj]

/-! ## The ending of the example -/

variable {display : Value U} {scope : Nat}

/-- A fault is told like the error that it wraps. -/
theorem conclude_fault {error : Value U} {text : String} {s : S} (hk : e.surface.kind error w.outside = .ordinary)
    (ht : e.surface.describeFault error w.outside = (.done text, s)) :
    e.conclude display (.fault text error) (w.withOutside s) = e.conclude display (.thrown error) w := by
  have hfault : e.conclude display (.fault text error) (w.withOutside s) =
      e.finish .errored display (.text text) (w.withOutside s) := (e.conclude_of_tag? rfl).trans rfl
  have hkind : e.surface.kindOf (.thrown error) w.outside = .ordinary := hk
  have hthrown : e.conclude display (.thrown error) w =
      (e.step (e.surface.describeFault error) >>= fun text => e.finish .errored display (.text text)) w :=
    e.conclude_of_stays hkind rfl
  rw [hfault, hthrown, Action.bind_done (e.step_of_done ht)]

/-- An expectation on a block ends an example as the call of the block and an expectation on its value does, in the
world in which the matcher has said that it does not want the block; the errors of the block need only have texts. -/
theorem settle_require_block (e' : Engine U S) (he : e'.surface = e.surface)
    (hq : e.wantsBlock m w = (.done false, asked))
    (ht : ∀ error w', e.call f [] asked = (.raised (.thrown error), w') →
      e.surface.kind error w'.outside = .ordinary → ∃ t s, e.surface.describeFault error w'.outside = (.done t, s))
    (rest : Verdict (Value U) → Run U S α) :
    e'.settle display scope (e.require ⟨.block f, .standard, some scope⟩ negate m >>= rest) w =
      e'.settle display scope
        (e.call f [] >>= fun v => e.require ⟨.value v, .standard, some scope⟩ negate m >>= rest) asked := by
  rcases hc : e.call f [] asked with ⟨v | err | _, called⟩
  · refine e'.settle_congr ?_
    rw [Action.bind_done hc, e.require_standard, e.require_standard, bind_assoc, bind_assoc, Action.bind_apply,
      Action.bind_apply, e.evaluate_block_done hq hc]
  · have heager : e'.settle display scope
        (e.call f [] >>= fun v => e.require ⟨.value v, .standard, some scope⟩ negate m >>= rest) asked =
          e'.conclude display err called := e'.settle_of_raised (Action.bind_raised hc)
    have hjudge : e.judge (.block f) m w = (.done (.absent, .error err), called) := e.judge_call hq hc
    rw [heager]
    by_cases hk : e.surface.kindOf err called.outside = .ordinary
    · obtain ⟨error, rfl⟩ : ∃ error, err = .thrown error := by
        cases err with
        | thrown error => exact ⟨error, rfl⟩
        | _ => cases hk
      obtain ⟨t, s, htext⟩ := ht error called hc hk
      have hfault : (e.require ⟨.block f, .standard, some scope⟩ negate m >>= rest) w =
          (.raised (.fault t error), called.withOutside s) := by
        rw [e.require_standard, bind_assoc, Action.bind_done (e.evaluate_of_ordinary hjudge hk)]
        exact Action.bind_raised (e.enforce_fault rfl htext)
      rw [e'.settle_of_raised hfault, e'.conclude_fault (by rw [he]; exact hk) (by rw [he]; exact htext)]
    · refine e'.settle_of_raised ?_
      rw [e.require_standard, bind_assoc, Action.bind_raised (e.evaluate_of_passing hjudge hk)]
  · rw [e'.settle_of_exhausted (Action.bind_exhausted hc)]
    refine e'.settle_of_exhausted ?_
    rw [e.require_standard, bind_assoc, Action.bind_exhausted (e.evaluate_block_exhausted hq hc)]

end Engine

/-! ## Code that cannot tell two worlds apart -/

section
variable {K : Kinship U} {T : Twin K S S} {i i' : Nat} {negate : Bool} {m m' : Matcher (Value U)}

theorem Twin.target_like {mark : T.Mark} {w w' : World U S} (hw : T.holds mark w w') (hi : K.scope i i')
    {s s' : Source (Value U)} (hs : s.Like K.value s') :
    (w.target i s).Like K.toHandles K.value (w'.target i' s') := by
  have hscope := T.scope? hw hi
  rw [World.target, World.target]
  generalize w.scope? i = o at hscope ⊢
  generalize w'.scope? i' = o' at hscope ⊢
  cases hscope with
  | none => exact .mk hs .standard (.some hi)
  | some h =>
    obtain ⟨-, hev, -, -, -⟩ := h
    exact .mk hs hev (.some hi)

namespace Program

theorem like_expecting (hi : K.scope i i') (hm : K.Matcher m m') {s s' : Source (Value U)} (hs : s.Like K.value s') :
    Program.Like T K.Verdict (expecting i ⟨s, negate, m⟩) (expecting i' ⟨s', negate, m'⟩) :=
  .bind (.ask (.observe fun _ _ _ hw => T.target_like hw hi hs)) fun _ _ ht => .ask (.require ht negate hm)

theorem like_deferred (hi : K.scope i i') {b b' : Value U} (hb : K.value b b') (hm : K.Matcher m m') :
    Program.Like T K.Verdict (deferred i negate b m) (deferred i' negate b' m') :=
  like_expecting hi hm (.block hb)

theorem like_eager (hi : K.scope i i') {b b' : Value U} (hb : K.value b b') (hm : K.Matcher m m') :
    Program.Like T K.Verdict (eager i negate b m) (eager i' negate b' m') :=
  .bind (.ask (.call hb .nil)) fun _ _ hv => like_expecting hi hm (.value hv)

theorem like_subjectAtHand (hi : K.scope i i') (hm : K.Matcher m m') :
    Program.Like T K.Verdict (subjectAtHand i negate m) (subjectAtHand i' negate m') := by
  have hsubject : Program.Like T K.value (subject i) (subject i') := by
    refine .bind (.ask (.access hi subjectName)) fun a a' ha => ?_
    cases ha with
    | member => exact .pure Kinship.absent
    | value hv => exact .pure hv
  exact .bind hsubject fun _ _ hv => like_expecting hi hm (.value hv)

theorem like_around {make make' : Program U S (Value U × Matcher (Value U))}
    {expect expect' : Value U → Matcher (Value U) → Program U S (Verdict (Value U))}
    {rest rest' : Verdict (Value U) → Program U S (Value U)}
    (hmake : Program.Like T (fun p p' => K.value p.1 p'.1 ∧ K.Matcher p.2 p'.2) make make')
    (hexpect : ∀ b b' m m', K.value b b' → K.Matcher m m' → Program.Like T K.Verdict (expect b m) (expect' b' m'))
    (hrest : ∀ v v', K.Verdict v v' → Program.Like T K.value (rest v) (rest' v')) :
    Program.Like T K.value (around make expect rest) (around make' expect' rest') :=
  .bind hmake fun _ _ hp => .bind (hexpect _ _ _ _ hp.1 hp.2) hrest

end Program

/-- What makes an outcome of the ending of a body goes in step. -/
theorem Abreast.settle {e e' : Engine U S} (a : Abreast T e e') {α' : Type} {R : α → α' → Prop} {run : Run U S α}
    {run' : Run U S α'} (hr : T.Runs R run run') {v v' : Value U} (hv : K.value v v') {i i' : Nat} (hi : K.scope i i') :
    T.Runs Eq (e.settle v i run) (e'.settle v' i' run') := by
  refine hr.attempt.bind fun r r' h => ?_
  cases h with
  | error he => exact a.conclude hv he
  | ok _ => exact a.succeed hi hv

end

/-- The code of the specification makes no declarations and cannot tell corresponding worlds apart: not with the
example of that scope and name, the matcher, and what comes after the expectation. -/
structure Host.CannotTell {K : Kinship U} (h : Host U S) (T : Twin K S S) (id : Nat) (display : Value U)
    (m : Matcher (Value U)) (rest : Verdict (Value U) → Program U S (Value U)) : Prop where
  code : Host.Like T h h
  declares {g g' : Nat} {d d' : Declaration (Value U)} : ¬ T.declares g d g' d'
  scope : K.scope id id
  display : K.value display display
  matcher : K.Matcher m m
  rest {v v' : Verdict (Value U)} : K.Verdict v v' → Program.Like T K.value (rest v) (rest v')

/-- Two examples have the same outcome or raise errors that correspond, and leave worlds that correspond. -/
def Twin.EndAlike {K : Kinship U} (T : Twin K S S) (mark : T.Mark)
    (x y : Ending (Exn (Value U)) Outcome × World U S) : Prop :=
  Ending.Like K.Exn Eq x.1 y.1 ∧ T.holds mark x.2 y.2

theorem Host.CannotTell.settle {K : Kinship U} {h : Host U S} {T : Twin K S S} {id : Nat} {display : Value U}
    {m : Matcher (Value U)} {rest : Verdict (Value U) → Program U S (Value U)} (hc : h.CannotTell T id display m rest)
    (n : Nat) {p : Program U S (Verdict (Value U))} (hp : Program.Like T K.Verdict p p) {mark : T.Mark}
    {w w' : World U S} (hw : T.holds mark w w') :
    T.EndAlike mark ((h.engine n).settle display id (h.exec n (p.bind rest)) w)
      ((h.engine n).settle display id (h.exec n (p.bind rest)) w') := by
  have a : Abreast T (h.engine n) (h.engine n) := by
    rw [h.engine_eq]
    exact abreast_execWith hc.code (fun _ _ _ _ _ _ _ _ hd => (hc.declares hd).elim) n
  have hrun : T.Runs K.value (h.exec n (p.bind rest)) (h.exec n (p.bind rest)) :=
    a.run (.bind hp fun _ _ hv => hc.rest hv)
  exact a.settle hrun hc.display hc.scope mark w w' hw

/-! ## Whole examples -/

namespace Host

variable (h : Host U S) {n id : Nat} {negate : Bool} {b : Value U} {m : Matcher (Value U)} {w asked : World U S}

/-- In the first world a block may be deferred: the matcher, which is asked first, does not want the block, and that
leaves the second world. There the block may be called by the library as well as by the body, for which a level more is
to spare, and an ordinary error that it raises can be put into words. -/
structure Deferrable (h : Host U S) (n : Nat) (b : Value U) (m : Matcher (Value U)) (w asked : World U S) : Prop where
  asks : (h.engine n).wantsBlock m w = (.done false, asked)
  calls : (h.engine n).answerCall b [] asked = (h.engine n).call b [] asked
  tells (error : Value U) (w' : World U S) : (h.engine n).call b [] asked = (.raised (.thrown error), w') →
    h.toSurface.kind error w'.outside = .ordinary →
    ∃ t s, h.toSurface.describeFault error w'.outside = (.done t, s)

/-- A value of the specification's own is called alike by both. -/
theorem answerCall_user (n : Nat) (u : U) : (h.engine n).answerCall (.user u) [] = (h.engine n).call (.user u) [] := rfl

variable {h}

theorem Deferrable.standard (hd : h.Deferrable n b m w asked) (hw : w.Standard id) : asked.Standard id := by
  have hc : w.Carries ((h.engine n).wantsBlock m w).2 := ((h.ledger_engine n).wantsBlock m w trivial).2
  rw [hd.asks] at hc
  exact hw.carried hc

theorem exec_eager (hd : h.Deferrable n b m w asked) (hw : w.Standard id) :
    h.exec (n + 1) (Program.eager id negate b m) asked = ((h.engine n).call b [] >>= fun v =>
      (h.engine n).require ⟨.value v, .standard, some id⟩ negate m) asked := by
  have hcall : h.exec (n + 1) (.ask (.call b [])) asked = (h.engine n).call b [] asked := hd.calls
  have hc : asked.Carries ((h.engine n).call b [] asked).2 := ((h.ledger_engine n).call b [] asked trivial).2
  rw [Program.eager, exec_bind, Action.bind_apply, hcall, Action.bind_apply]
  rcases hb : (h.engine n).call b [] asked with ⟨v | err | _, called⟩
  · rw [hb] at hc
    exact h.expecting_apply n ((hd.standard hw).carried hc) ⟨.value v, negate, m⟩
  · rfl
  · rfl

/-- The rest of an example that defers a block ends as the one does that calls it. -/
theorem settle_deferred (hd : h.Deferrable n b m w asked) (hw : w.Standard id)
    (rest : Verdict (Value U) → Program U S (Value U)) (display : Value U) :
    (h.engine (n + 1)).settle display id (h.exec (n + 1) ((Program.deferred id negate b m).bind rest)) w =
      (h.engine (n + 1)).settle display id (h.exec (n + 1) ((Program.eager id negate b m).bind rest)) asked := by
  have hdeferred : h.exec (n + 1) ((Program.deferred id negate b m).bind rest) w =
      ((h.engine n).require ⟨.block b, .standard, some id⟩ negate m >>= fun v => h.exec (n + 1) (rest v)) w := by
    rw [exec_bind, Action.bind_apply, Program.deferred, h.expecting_apply n hw, Action.bind_apply]
  have heager : h.exec (n + 1) ((Program.eager id negate b m).bind rest) asked =
      ((h.engine n).call b [] >>= fun v => (h.engine n).require ⟨.value v, .standard, some id⟩ negate m >>=
        fun v => h.exec (n + 1) (rest v)) asked := by
    rw [exec_bind, Action.bind_apply, exec_eager hd hw, ← Action.bind_apply, bind_assoc]
  rw [(h.engine (n + 1)).settle_congr hdeferred, (h.engine (n + 1)).settle_congr heager]
  exact (h.engine n).settle_require_block (h.engine (n + 1)) rfl hd.asks hd.tells _

/-- What becomes of an example whose body first makes something of its own and then goes on. -/
theorem runCalling_around {x : Example (Value U)} {body display : Value U} {begun ready : World U S}
    {make : Program U S (Value U × Matcher (Value U))}
    {expect : Value U → Matcher (Value U) → Program U S (Verdict (Value U))}
    {rest : Verdict (Value U) → Program U S (Value U)}
    (hb : (h.engine (n + 1)).beginExample .standard x w = (.done (display, id), begun))
    (hbody : h.RunsAs (n + 1) body id (.around make expect rest))
    (hmake : h.exec (n + 1) make begun = (.done (b, m), ready)) :
    (h.engine (n + 1)).runCalling .standard x body w =
      (h.engine (n + 1)).settle display id (h.exec (n + 1) ((expect b m).bind rest)) ready := by
  rw [Engine.runCalling_of_runsAs hb hbody]
  exact (h.engine (n + 1)).settle_congr (Action.bind_done hmake)

/-- The subject as an attribute is the value of the helper of that name. -/
theorem exec_subject (h : Host U S) (n id : Nat) :
    h.exec (n + 1) (Program.subject id) = (h.engine n).lookupName id .subject := by
  funext w
  have haccess : h.exec (n + 1) (.ask (.access id subjectName)) w =
      ((h.engine n).lookupName id .subject >>= fun v => pure (.value v)) w :=
    congrArg (fun look => (look >>= fun v => pure (Access.value v)) w) ((h.engine n).lookup_text id subjectName)
  rw [Program.subject, exec_bind, Action.bind_apply, haccess, Action.bind_apply]
  rcases (h.engine n).lookupName id .subject w with ⟨v | err | _, w'⟩ <;> rfl

/-- The function that computes the subject takes a number. -/
theorem exec_makeSubject (id : Nat) {make : Program U S (Matcher (Value U))} {begun ready : World U S}
    (hmake : h.exec (n + 1) make begun = (.done m, ready)) :
    h.exec (n + 1) (Program.makeSubject id make) begun = (.done (.subjectOf ready.serials id, m), ready.counted) := by
  rw [Program.makeSubject, exec_bind, Action.bind_done hmake]
  rfl

end Host

/-- Eager and deferred expectations agree at the outcome of an example. The body of an example makes a block and a
matcher, which does not want the block; then it applies an expectation and goes on. Whether it calls the block and
expects something of the value, or expects it of the block: what the example comes to is what the first form comes to,
begun in the world in which the body is ready for it, or in the one that is left when the matcher has been asked whether
it wants the block. If asking leaves that world as it is, the two are the same; and if the code cannot tell the two
worlds apart, the outcomes are the same or the errors alike, and so are the worlds that are left. The same is true of
the subject of the example, as a value at hand and as an expectation that computes it; there the function that computes
it has been made besides, and has taken a number, before the matcher is asked. -/
theorem Host.deferred_ends_as_eager (h : Host U S) {n id : Nat} {negate : Bool} {x : Example (Value U)}
    {display : Value U} {w begun : World U S}
    (hb : (h.engine (n + 1)).beginExample .standard x w = (.done (display, id), begun))
    (rest : Verdict (Value U) → Program U S (Value U)) :
    (∀ body, x.body = some body →
      (h.engine (n + 1)).runExample .standard x w = (h.engine (n + 1)).runCalling .standard x body w) ∧
    (∀ make b m ready asked eager deferred, h.exec (n + 1) make begun = (.done (b, m), ready) →
      h.Deferrable n b m ready asked → h.RunsAs (n + 1) eager id (.around make (.eager id negate) rest) →
      h.RunsAs (n + 1) deferred id (.around make (.deferred id negate) rest) →
      (h.engine (n + 1)).runCalling .standard x eager w = (h.engine (n + 1)).settle display id
        (h.exec (n + 1) ((Program.eager id negate b m).bind rest)) ready ∧
      (h.engine (n + 1)).runCalling .standard x deferred w = (h.engine (n + 1)).settle display id
        (h.exec (n + 1) ((Program.eager id negate b m).bind rest)) asked ∧
      (asked = ready → (h.engine (n + 1)).runCalling .standard x deferred w =
        (h.engine (n + 1)).runCalling .standard x eager w) ∧
      ∀ (K : Kinship U) (T : Twin K S S) (mark : T.Mark), h.CannotTell T id display m rest → K.value b b →
        T.holds mark ready asked → T.EndAlike mark ((h.engine (n + 1)).runCalling .standard x eager w)
          ((h.engine (n + 1)).runCalling .standard x deferred w)) ∧
    ∀ make m ready asked atHand isExpected, h.exec (n + 1) make begun = (.done m, ready) →
      h.Deferrable n (.subjectOf ready.serials id) m ready.counted asked →
      h.RunsAs (n + 1) atHand id (.expectSubject id negate make rest) →
      h.RunsAs (n + 1) isExpected id (.isExpected id negate make rest) →
      (h.engine (n + 1)).runCalling .standard x atHand w = (h.engine (n + 1)).settle display id
        (h.exec (n + 1) ((Program.subjectAtHand id negate m).bind rest)) ready ∧
      (h.engine (n + 1)).runCalling .standard x isExpected w = (h.engine (n + 1)).settle display id
        (h.exec (n + 1) ((Program.subjectAtHand id negate m).bind rest)) asked ∧
      ∀ (K : Kinship U) (T : Twin K S S) (mark : T.Mark), h.CannotTell T id display m rest →
        T.holds mark ready asked → T.EndAlike mark ((h.engine (n + 1)).runCalling .standard x atHand w)
          ((h.engine (n + 1)).runCalling .standard x isExpected w) := by
  have hstandard : begun.Standard id := ⟨_, (h.engine (n + 1)).beginExample_scope hb, rfl⟩
  refine ⟨fun body hbody => congrFun ((h.engine (n + 1)).runExample_eq .standard x hbody) w, ?_, ?_⟩
  · intro make b m ready asked eager deferred hmake hd heager hdeferred
    have hforms := runCalling_around hb heager hmake
    have hsettle := runCalling_around hb hdeferred hmake
    rw [settle_deferred hd (h.exec_standard (n + 1) hmake hstandard)] at hsettle
    refine ⟨hforms, hsettle, ?_, fun K T mark hc hblock hw => ?_⟩
    · rintro rfl
      rw [hsettle, hforms]
    · rw [hforms, hsettle]
      exact hc.settle (n + 1) (Program.like_eager hc.scope hblock hc.matcher) hw
  · intro make m ready asked atHand isExpected hmake hd hatHand hisExpected
    have hmade := exec_makeSubject id hmake
    have hcounted : ready.counted.Standard id := h.exec_standard (n + 1) hmade hstandard
    have hsubject : h.exec (n + 1) (Program.eager id negate (.subjectOf ready.serials id) m) =
        h.exec (n + 1) (Program.subjectAtHand id negate m) := by
      rw [Program.subjectAtHand, exec_bind, exec_subject]
      rfl
    have hforms : (h.engine (n + 1)).runCalling .standard x atHand w = (h.engine (n + 1)).settle display id
        (h.exec (n + 1) ((Program.subjectAtHand id negate m).bind rest)) ready := by
      rw [Engine.runCalling_of_runsAs hb hatHand]
      exact (h.engine (n + 1)).settle_congr (Action.bind_done hmake)
    have hsettle : (h.engine (n + 1)).runCalling .standard x isExpected w = (h.engine (n + 1)).settle display id
        (h.exec (n + 1) ((Program.subjectAtHand id negate m).bind rest)) asked := by
      rw [runCalling_around hb hisExpected hmade, settle_deferred hd hcounted, exec_bind, exec_bind, hsubject]
    refine ⟨hforms, hsettle, fun K T mark hc hw => ?_⟩
    rw [hforms, hsettle]
    exact hc.settle (n + 1) (Program.like_subjectAtHand hc.scope hc.matcher) hw

/-- A custom matcher, the number 8. -/
def Matcher.eight : Matcher (Value Nat) := ⟨.user 8, .own⟩

/-- The bodies under 0 and 2 expect something of the block under 1 in both forms, and those under 3 and 4 of the subject
of the example. -/
def formOf (i : Nat) : Nat → Program Nat Unit (Value Nat)
  | 0 => .around (.pure (.user 1, .eight)) (.eager i false) fun _ => .pure .absent
  | 2 => .around (.pure (.user 1, .eight)) (.deferred i false) fun _ => .pure .absent
  | 3 => .expectSubject i false (.pure .eight) fun _ => .pure .absent
  | 4 => .isExpected i false (.pure .eight) fun _ => .pure .absent
  | _ => .pure .absent

/-- The code with these bodies; a block raises a number. -/
def twoFormsCode : NumberedCode := fun u vs =>
  match vs with
  | [.scope i] => formOf i u
  | _ => .raise (.thrown (.user (u + 8)))

theorem like_formOf {K : Kinship Nat} {T : Twin K Unit Unit} (hu : ∀ u, K.user u u) {i i' : Nat} (hi : K.scope i i')
    (u : Nat) : Program.Like T K.value (formOf i u) (formOf i' u) := by
  have hone : K.value (.user 1) (.user 1) := K.value_iff.mpr (.user (hu 1))
  have height : K.Matcher .eight .eight := .mk (K.value_iff.mpr (.user (hu 8))) .own
  have hrest (v v' : Verdict (Value Nat)) (_ : K.Verdict v v') :
      Program.Like T K.value (.pure .absent : Program Nat Unit _) (.pure .absent) := .pure Kinship.absent
  unfold formOf
  split
  · exact Program.like_around (.pure ⟨hone, height⟩) (fun _ _ _ _ hb hm => Program.like_eager hi hb hm) hrest
  · exact Program.like_around (.pure ⟨hone, height⟩) (fun _ _ _ _ hb hm => Program.like_deferred hi hb hm) hrest
  · exact .bind (.pure height) fun _ _ hm => .bind (Program.like_subjectAtHand hi hm) hrest
  · refine Program.like_around ?_ (fun _ _ _ _ hb hm => Program.like_deferred hi hb hm) hrest
    exact .bind (.pure height) fun _ _ hm => .bind (.ask .serial) fun _ _ hn =>
      .pure ⟨K.value_iff.mpr (.subjectOf hn hi), hm⟩
  · exact .pure Kinship.absent

/-- The code cannot tell what numbers the functions have that the library makes. -/
theorem Host.like_twoForms (w w' : World Nat Unit) (x x' : Example (Value Nat)) :
    Host.Like (View.numbers.twin w w' x x') (.numbers (fun _ => false) twoFormsCode)
      (.numbers (fun _ => false) twoFormsCode) := by
  refine Host.like_numbers (fun _ _ h => h) fun u vs vs' hvs => ?_
  let K := View.numbers.kinship w w' x x'
  have hraise : Program.Like (View.numbers.twin w w' x x') K.value (.raise (.thrown (.user (u + 8))))
      (.raise (.thrown (.user (u + 8)))) := .raise (.thrown (K.value_iff.mpr (.user rfl)))
  rcases hvs with _ | ⟨hv, _ | ⟨_, _⟩⟩
  · exact hraise
  · cases K.value_iff.mp hv with
    | scope hi => exact like_formOf (fun _ => rfl) hi u
    | _ => exact hraise
  · cases K.value_iff.mp hv <;> exact hraise

/-- An example under way, and the world in which one more function has been made besides. -/
theorem together_counted (x : Example (Value Nat)) (hx : x.group = 0) (hdata : x.sameData x = true) :
    Together View.numbers (singleWorld .absent) (singleWorld .absent).counted x x
      ((singleWorld .absent).opened x .standard) ((singleWorld .absent).opened x .standard).counted := by
  let K := View.numbers.kinship (singleWorld .absent) (singleWorld .absent).counted x x
  have hu : ∀ u, K.user u u := fun _ => rfl
  have hlevel : K.Level (singleWorld .absent).forest (singleWorld .absent).forest 0 0 :=
    Kinship.Level.of_sameData hu (fun _ _ => trivial) (by decide +kernel)
  have hchain : K.Chain (singleWorld .absent).forest x.group (singleWorld .absent).counted.forest x.group := by
    rw [hx]
    exact ⟨.cons hlevel .nil, .cons hlevel .nil, .none⟩
  have howner : K.owner x x := ⟨⟨rfl, rfl⟩, Kinship.example_of_sameData hu hdata⟩
  have hstart : Together View.numbers (singleWorld .absent) (singleWorld .absent).counted x x (singleWorld .absent)
      (singleWorld .absent).counted := .of_start trivial rfl hchain
  exact ((View.numbers.twin _ _ x x).opens (m := ()) hstart howner .standard).2

/-- The block is at fault in both forms, and the example ends in the same way. There is no subject, and in both forms
that is the same mistake. -/
theorem deferred_ends_as_eager_raising :
    let e := (Host.numbers (fun _ => false) twoFormsCode).engine 2
    e.runExample .standard (.numbered 0) (singleWorld .absent) =
      e.runCalling .standard (.numbered 0) (.user 2) (singleWorld .absent) ∧
    (∃ w', e.runExample .standard (.numbered 0) (singleWorld .absent) =
      (.done ⟨.errored, "first", "number: 9"⟩, w')) ∧
    (∃ K : Kinship Nat, Ending.Like K.Exn Eq
      (e.runCalling .standard (.numbered 0) (.user 3) (singleWorld .absent)).1
      (e.runCalling .standard (.numbered 0) (.user 4) (singleWorld .absent)).1) ∧
    ∃ err w', e.runCalling .standard (.numbered 0) (.user 4) (singleWorld .absent) =
      (.raised (.authoring err), w') := by
  obtain ⟨hlink, hforms, hsubject⟩ := (Host.numbers (fun _ => false) twoFormsCode).deferred_ends_as_eager
    (n := 1) (x := .numbered 0) (w := singleWorld .absent) rfl fun _ => .pure .absent
  have hraising : (Host.numbers (fun _ => false) twoFormsCode).Deferrable 1 (.user 1) .eight begunWorld begunWorld := by
    refine ⟨rfl, congrFun (Host.answerCall_user _ 1 1) _, fun error w' h _ => ?_⟩
    cases h
    exact ⟨_, _, rfl⟩
  have hmissing : (Host.numbers (fun _ => false) twoFormsCode).Deferrable 1 (.subjectOf 0 0) .eight begunWorld.counted
      begunWorld.counted := by
    refine ⟨rfl, rfl, fun error w' h _ => ?_⟩
    cases h
  obtain ⟨-, -, hsame, -⟩ :=
    hforms (.pure (.user 1, .eight)) (.user 1) .eight _ _ (.user 0) (.user 2) rfl hraising rfl rfl
  obtain ⟨-, -, halike⟩ := hsubject (.pure .eight) .eight _ _ (.user 3) (.user 4) rfl hmissing rfl rfl
  let T := View.numbers.twin (singleWorld .absent) (singleWorld .absent).counted (.numbered 0) (.numbered 0)
  have hcannot : (Host.numbers (fun _ => false) twoFormsCode).CannotTell T 0 (.text "first") .eight
      fun _ => .pure .absent :=
    ⟨Host.like_twoForms _ _ _ _, id, .start .., Kinship.text "first", .mk (.of_shape (.user rfl)) .own,
      fun _ => .pure Kinship.absent⟩
  refine ⟨?_, ⟨_, rfl⟩, ⟨_, (halike _ T () hcannot (together_counted _ rfl rfl)).1⟩, _, _, rfl⟩
  rw [hlink (.user 0) rfl, hsame rfl]

/-- Custom matchers that make a note when they are asked whether they want the block, and do not. -/
def Host.asking (code : NumberedCode) : Host Nat Unit :=
  { Host.numbers (fun _ => false) code with
    traitOf := fun _ t =>
      if t = .expectsCallable then .bind (.ask (.note [.text "asked"])) fun _ => .pure (some (.flag false))
      else .pure none }

/-- The question whether the matcher wants the block is asked in the deferred form alone, and what it does is seen. -/
theorem question_seen :
    let e := (Host.asking twoFormsCode).engine 2
    (Host.asking twoFormsCode).RunsAs 2 (.user 0) 0
      (.around (.pure (.user 1, .eight)) (.eager 0 false) fun _ => .pure .absent) ∧
    (Host.asking twoFormsCode).RunsAs 2 (.user 2) 0
      (.around (.pure (.user 1, .eight)) (.deferred 0 false) fun _ => .pure .absent) ∧
    (∀ w, ∃ w', ((Host.asking twoFormsCode).engine 1).wantsBlock .eight w = (.done false, w')) ∧
    (e.runCalling .standard (.numbered 0) (.user 0) (singleWorld .absent)).2.journal.size = 0 ∧
    (e.runCalling .standard (.numbered 0) (.user 2) (singleWorld .absent)).2.journal.size = 1 :=
  ⟨rfl, rfl, fun _ => ⟨_, rfl⟩, rfl, rfl⟩

end Exemplar

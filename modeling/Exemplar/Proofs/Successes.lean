import Exemplar.Proofs.Course
import Exemplar.Proofs.Telling

/-!
# Exemplar.Proofs.Successes — the recorded successes are the expectations that came back

While something runs, an account can be kept beside the specification's own state: each demand on a scope that comes
back is put down with its result, and so is the world before each request that the code makes and after it. Between two
requests the code sees nothing but its own state, so these are all the moments at which it can look at a scope. Nothing
goes differently for the account, and at every moment the successes of a scope are the results put down for it.

* `Account.Faithful`: an account tells the successes of all its moments; `Faithful.append`: it may be split anywhere.
* `Host.accountant`: the engine that keeps the account; `abreast_accountant`: it does what the plain one does.
* `Host.serves_accountant`: whatever it runs, the account stays faithful.
* `Account.Tells`: in the end and at every moment on the way, the successes are what has come back.
* `Host.successes_accounted`: so it is in every world that can be reached.
-/

namespace Exemplar

variable {U S α : Type}

/-! ## Accounts -/

/-- The expectation was met, and judged without a fault. -/
def Verdict.Passed {V : Type} (v : Verdict V) : Prop := v.valid = true ∧ v.fault = none

/-- What is put down of a run. -/
inductive Sighting (U S : Type) where
  /-- The world at some moment. -/
  | moment (w : World U S)
  /-- A demand on a scope has come back with a result. -/
  | returned (id : Nat) (v : Verdict (Value U))

/-- What has been put down, in order. -/
abbrev Account (U S : Type) := List (Sighting U S)

/-- What the sighting adds to the results that have come back on a scope. -/
def Sighting.adds (id : Nat) : Sighting U S → List (Verdict (Value U))
  | .moment _ => []
  | .returned i v => if i = id then [v] else []

namespace Account

/-- The results that have come back on a scope, in order. -/
def returnedOn (id : Nat) (l : Account U S) : List (Verdict (Value U)) := l.flatMap (Sighting.adds id)

/-- If the scopes have these successes at first, then at each moment they have these and what has come back by then, and
what comes back has passed. -/
def Faithful (base : Nat → List (Verdict (Value U))) : Account U S → Prop
  | [] => True
  | .moment w :: l => (∀ id, w.successes id = base id) ∧ Faithful base l
  | .returned i v :: l => v.Passed ∧ Faithful (fun id => base id ++ Sighting.adds id (.returned i v : Sighting U S)) l

theorem returnedOn_cons (id : Nat) (s : Sighting U S) (l : Account U S) :
    returnedOn id (s :: l) = s.adds id ++ returnedOn id l := List.flatMap_cons

theorem returnedOn_append (id : Nat) (l r : Account U S) :
    returnedOn id (l ++ r) = returnedOn id l ++ returnedOn id r := List.flatMap_append

theorem mem_returnedOn {id : Nat} {v : Verdict (Value U)} {l : Account U S} :
    v ∈ returnedOn id l ↔ .returned id v ∈ l := by
  rw [returnedOn, List.mem_flatMap]
  constructor
  · rintro ⟨w | ⟨i, r⟩, hs, hv⟩
    · cases hv
    · by_cases hi : i = id
      · rw [Sighting.adds, if_pos hi] at hv
        obtain rfl := List.mem_singleton.mp hv
        exact hi ▸ hs
      · rw [Sighting.adds, if_neg hi] at hv
        cases hv
  · intro hv
    exact ⟨_, hv, by simp [Sighting.adds]⟩

variable {base : Nat → List (Verdict (Value U))} {l r : Account U S}

namespace Faithful

/-- The second part of an account goes on from where the first one leads. -/
theorem append :
    Faithful base (l ++ r) ↔ Faithful base l ∧ Faithful (fun id => base id ++ returnedOn id l) r := by
  induction l generalizing base with
  | nil => simp [returnedOn, Faithful]
  | cons s l ih =>
    cases s with
    | moment w =>
      have hadds (id : Nat) : returnedOn id (.moment w :: l) = returnedOn id l := rfl
      simp only [List.cons_append, Faithful, ih, hadds, and_assoc]
    | returned i v => simp only [List.cons_append, Faithful, ih, returnedOn_cons, List.append_assoc, and_assoc]

theorem moment {w : World U S} (h : Faithful base (l ++ .moment w :: r)) (id : Nat) :
    w.successes id = base id ++ returnedOn id l :=
  (append.mp h).2.1 id

theorem passed {id : Nat} {v : Verdict (Value U)} (h : Faithful base l) (hv : .returned id v ∈ l) : v.Passed := by
  obtain ⟨before, after, rfl⟩ := List.append_of_mem hv
  exact (append.mp h).2.1

end Faithful
end Account

/-! ## Keeping the account -/

namespace World

variable (w : World U (S × Account U S))

/-- The world, something being put down. -/
def note (s : Sighting U S) : World U (S × Account U S) := w.withOutside (w.outside.1, w.outside.2 ++ [s])

/-- The world, which is put down itself. -/
def sight : World U (S × Account U S) := w.note (.moment w.forget)

/-- The world, the result of a demand being put down if that was one on a scope. -/
def noteReturn (scope : Option Nat) (v : Verdict (Value U)) : World U (S × Account U S) :=
  match scope with
  | some id => if (w.scope? id).isSome then w.note (.returned id v) else w
  | none => w

theorem forget_noteReturn (scope : Option Nat) (v : Verdict (Value U)) : (w.noteReturn scope v).forget = w.forget := by
  cases scope with
  | none => rfl
  | some id =>
    unfold noteReturn
    dsimp only
    split
    · rfl
    · rfl

end World

/-- Does `x`, the moments before and after it being put down. -/
def Run.accounted (x : Run U (S × Account U S) α) : Run U (S × Account U S) α := do
  Action.modify World.sight
  Action.ensure x World.sight

namespace Engine

variable (e : Engine U (S × Account U S))

/-- `Engine.require`, the result being put down. -/
def requireAccounted (t : Target (Value U)) (negate : Bool) (m : Matcher (Value U)) :
    Run U (S × Account U S) (Verdict (Value U)) := do
  let v ← e.require t negate m
  Action.modify (·.noteReturn t.scope v)
  pure v

/-- `Engine.perform`, an account of it being kept. -/
def performAccounted {α : Type} : Request U (S × Account U S) α → Run U (S × Account U S) α
  | .step x => e.step x
  | .require t negate m => Run.accounted (e.requireAccounted t negate m)
  | r => Run.accounted (e.perform r)

end Engine

namespace Host

/-- Runs a program with `n` levels to go as `Host.exec` does, an account of it being kept. -/
def execAccounted (h : Host U (S × Account U S)) :
    Nat → {α : Type} → Program U (S × Account U S) α → Run U (S × Account U S) α
  | 0, _, _ => Run.complain h.toSurface .tooDeep
  | n + 1, _, p => p.interp (Engine.performAccounted ⟨h, execAccounted h n⟩)

/-- The engine with `n` levels to go that keeps an account. -/
def accountant (h : Host U S) (n : Nat) : Engine U (S × Account U S) := ⟨h.beside, h.beside.execAccounted n⟩

end Host

/-! ## The plain run and the accounted one -/

/-- A world and the same one with some account beside its state. -/
abbrev Twin.accounted (U S : Type) : Twin (Kinship.same (U := U)) S (S × Account U S) :=
  .aside U S fun (_ : Unit) (_ : Account U S) => True

namespace Action.Like

variable {α' : Type} {R : α → α' → Prop} {x : Run U S α} {x' : Run U (S × Account U S) α'}

/-- Putting down the moments makes no difference. -/
theorem accounted (h : (Twin.accounted U S).Runs R x x') : (Twin.accounted U S).Runs R x (Run.accounted x') := by
  intro m w w' hw
  have hsight : (Twin.accounted U S).holds m w w'.sight := hw
  obtain ⟨hend, hafter, -⟩ := h m w w'.sight hsight
  exact ⟨hend, hafter, trivial⟩

/-- Putting down a result makes no difference. -/
theorem noteReturn {x' : Run U (S × Account U S) (Verdict (Value U))} {R : α → Verdict (Value U) → Prop}
    (h : (Twin.accounted U S).Runs R x x') (scope : Option Nat) :
    (Twin.accounted U S).Runs R x (x' >>= fun v => Action.modify (·.noteReturn scope v) >>= fun _ => Pure.pure v) := by
  intro m w w' hw
  obtain ⟨hend, hafter, -⟩ := h m w w' hw
  unfold Action.LikeAt
  rw [Action.bind_apply]
  rcases hr : x' w' with ⟨v | err | _, after⟩
  all_goals rw [hr] at hend hafter
  · exact ⟨hend, (after.forget_noteReturn scope v).trans hafter, trivial⟩
  · exact ⟨hend, hafter, trivial⟩
  · exact ⟨hend, hafter, trivial⟩

end Action.Like

/-- Alike requests are answered alike, whether or not an account is kept. -/
theorem Abreast.performAccounted {e : Engine U S} {e' : Engine U (S × Account U S)}
    (a : Abreast (Twin.accounted U S) e e') {α' : Type} {R : α → α' → Prop} {r : Request U S α}
    {r' : Request U (S × Account U S) α'} (hr : r.Like (Twin.accounted U S) R r') :
    (Twin.accounted U S).Runs R (e.perform r) (e'.performAccounted r') := by
  have hdeclare (g g' : Nat) (d d' : Declaration (Value U)) (hd : (Twin.accounted U S).declares g d g' d') :
      (Twin.accounted U S).Runs Eq (e.declare g d) (e'.declare g' d') := a.declare_aside hd
  have hother : (Twin.accounted U S).Runs R (e.performWith e.declare r)
      (Run.accounted (e'.performWith e'.declare r')) := (a.perform hr hdeclare).accounted
  cases hr with
  | step hx => exact a.step hx
  | require ht negate hm =>
    have hsame := (a.require ht negate hm).noteReturn
    obtain ⟨-, -, hscope⟩ := ht
    exact (hsame _).accounted
  | _ => exact hother

/-- Keeping an account makes no difference. -/
theorem Host.abreast_accountant (h : Host U S) (n : Nat) :
    Abreast (Twin.accounted U S) (h.engine n) (h.accountant n) := by
  have hhost := h.like_beside (Twin.aside_beside (U := U) (S := S) (P := fun (_ : Unit) (_ : Account U S) => True))
  induction n with
  | zero => exact ⟨hhost, fun _ => Abreast.refuse hhost.toLike _⟩
  | succ n ih => exact ⟨hhost, fun hp => hp.interp (fun hr => ih.performAccounted hr) fun _ _ => rfl⟩

/-! ## The account stays faithful -/

namespace World

variable (w : World U S) (id : Nat) (v : Verdict (Value U))

theorem isSome_scope?_succeed : ((w.succeed id v).scope? id).isSome = (w.scope? id).isSome := by
  rw [succeed, scope?_updateScope, if_pos rfl, Option.isSome_map]

/-- A success is recorded on one scope, if that exists. -/
theorem successes_succeed (i : Nat) : (w.succeed id v).successes i =
    w.successes i ++ if id = i ∧ (w.scope? id).isSome then [v] else [] := by
  unfold successes succeed
  rw [scope?_updateScope]
  by_cases hi : id = i
  · subst hi
    rw [if_pos rfl]
    cases w.scope? id with
    | none => simp
    | some s => simp
  · rw [if_neg hi, if_neg fun h => hi h.1, List.append_nil]

end World

/-- What is put down in between is faithful to the successes before, and tells those after. -/
def accountCourse (U S : Type) : Course U S (Account U S) where
  leads w w' := ∃ new, w'.outside.2 = w.outside.2 ++ new ∧ Account.Faithful w.successes new ∧
    ∀ id, w'.successes id = w.successes id ++ Account.returnedOn id new
  trans {w₁ w₂ w₃} h h' := by
    obtain ⟨l, hl, hfirst, hmid⟩ := h
    obtain ⟨r, hr, hsecond, hlast⟩ := h'
    refine ⟨l ++ r, ?_, ?_, fun id => ?_⟩
    · rw [hr, hl, List.append_assoc]
    · have hbase : w₂.successes = fun id => w₁.successes id ++ Account.returnedOn id l := funext hmid
      rw [hbase] at hsecond
      exact Account.Faithful.append.mpr ⟨hfirst, hsecond⟩
    · rw [hlast, hmid, List.append_assoc, Account.returnedOn_append]
  still {w w'} hside hsuccesses := by
    refine ⟨[], ?_, trivial, fun id => ?_⟩
    · rw [hside, List.append_nil]
    · exact (hsuccesses id).trans (List.append_nil _).symm

namespace Course

variable {x : Run U (S × Account U S) α}

theorem leads_sight (w : World U (S × Account U S)) : (accountCourse U S).leads w w.sight :=
  ⟨[.moment w.forget], rfl, ⟨fun _ => rfl, trivial⟩, fun _ => (List.append_nil _).symm⟩

theorem Keeps.accounted (h : (accountCourse U S).Keeps x) : (accountCourse U S).Keeps (Run.accounted x) := by
  have hbefore : (accountCourse U S).Keeps (Action.modify World.sight) := .modify leads_sight
  exact hbefore.bind fun _ => h.ensure leads_sight

/-- A success that is recorded and put down. -/
theorem leads_succeed (w : World U (S × Account U S)) (scope : Option Nat) {v : Verdict (Value U)} (hv : v.Passed) :
    (accountCourse U S).leads w ((scope.elim w fun id => w.succeed id v).noteReturn scope v) := by
  cases scope with
  | none => exact (accountCourse U S).refl w
  | some id =>
    have hfound : ((w.succeed id v).scope? id).isSome = (w.scope? id).isSome := w.isSome_scope?_succeed id v
    have hsuccesses := w.successes_succeed id v
    show (accountCourse U S).leads w ((w.succeed id v).noteReturn (some id) v)
    unfold World.noteReturn
    dsimp only
    rw [hfound]
    by_cases hs : (w.scope? id).isSome = true
    · rw [if_pos hs]
      refine ⟨[.returned id v], rfl, ⟨hv, trivial⟩, fun i => ?_⟩
      exact (hsuccesses i).trans (by simp [hs, Account.returnedOn, Sighting.adds])
    · rw [if_neg hs]
      exact (accountCourse U S).still rfl fun i => (hsuccesses i).trans (by simp [hs])

namespace Serves

variable {h : Host U S} {e : Engine U (S × Account U S)} (a : (accountCourse U S).Serves h e)
include a

/-- What follows from a verdict, its coming back being put down. -/
theorem enforceAccounted (scope : Option Nat) (v : Verdict (Value U)) : (accountCourse U S).Keeps
    (e.enforce scope v >>= fun v => Action.modify (·.noteReturn scope v) >>= fun _ => Pure.pure v) := by
  intro w
  by_cases hv : v.Passed
  · have hmet : e.enforce scope v w = (.done v, scope.elim w fun id => w.succeed id v) := by
      unfold Engine.enforce
      rw [hv.1, hv.2]
      cases scope with
      | none => rfl
      | some id => rfl
    rw [Action.bind_done hmet]
    exact leads_succeed w scope hv
  · -- nothing comes back then, so nothing is put down
    have hkeeps : (accountCourse U S).Keeps (e.enforce scope v) := by
      unfold Engine.enforce
      cases hf : v.fault with
      | some error => exact (a.step (a.surface.describeFault rfl)).bind fun text => .raise _
      | none =>
        have hinvalid : ¬ v.valid = true := fun hvalid => hv ⟨hvalid, hf⟩
        dsimp only
        rw [if_neg hinvalid]
        exact (a.message v).bind fun text => .raise _
    have hafter := hkeeps w
    rcases hr : e.enforce scope v w with ⟨r | err | _, w'⟩
    all_goals rw [hr] at hafter
    · obtain ⟨hvalid, hf, -⟩ := e.enforce_done hr
      exact absurd ⟨hvalid, hf⟩ hv
    · rw [Action.bind_raised hr]
      exact hafter
    · rw [Action.bind_exhausted hr]
      exact hafter

theorem requireAccounted (t : Target (Value U)) (negate : Bool) (m : Matcher (Value U)) :
    (accountCourse U S).Keeps (e.requireAccounted t negate m) := by
  unfold Engine.requireAccounted
  rw [Engine.require_eq, bind_assoc]
  exact (a.evaluateBy t.evaluator t.source negate m).bind fun v => a.enforceAccounted t.scope v

/-- Every request that code can make. -/
theorem performAccounted (r : Request U S α) : (accountCourse U S).Keeps (e.performAccounted r.beside) := by
  cases r with
  | step x => exact a.step (Twin.aside_beside.step x)
  | observe f => exact (Keeps.gets _).accounted
  | note vs => exact (record _).accounted
  | call f args => exact (a.answerCall f args).accounted
  | lookup id name => exact (a.lookup id name).accounted
  | access id name => exact (a.access id name).accounted
  | describedTarget id => exact (a.describedTarget id).accounted
  | evaluate source negate m => exact (a.evaluate source negate m).accounted
  | require t negate m => exact (a.requireAccounted t negate m).accounted
  | message v => exact (a.message v).accounted
  | summary v => exact (a.summary v).accounted
  | declare g d => exact (a.declare g d).accounted
  | recorder => exact newRecorder.accounted
  | serial => exact freshSerial.accounted

end Serves
end Course

/-- Whatever the accountant runs, the account stays faithful. -/
theorem Host.serves_accountant (h : Host U S) (n : Nat) : (accountCourse U S).Serves h (h.accountant n) := by
  induction n with
  | zero =>
    have hsurface : Surface.Like (Twin.kept U S (Account U S)) h.toSurface h.beside.toSurface :=
      Twin.aside_beside.surface h.toSurface
    exact ⟨rfl, fun p => Course.refuse hsurface .tooDeep⟩
  | succ n ih => exact ⟨rfl, fun p => Course.Keeps.interp (fun r => ih.performAccounted r) p⟩

/-! ## Successes and what has come back -/

/-- All successes of all scopes have passed. -/
def World.AllPassed (w : World U S) : Prop := ∀ id, ∀ v ∈ w.successes id, v.Passed

/-- In this world and at every moment before it, the successes of each scope are the results that had come back on it
by then, in the order in which they came. They all have passed, and those of one moment stand first at every later
one. -/
structure Account.Tells (l : Account U S) (w : World U S) : Prop where
  now (id : Nat) : w.successes id = returnedOn id l
  moments {before after : Account U S} {v : World U S} (h : l = before ++ .moment v :: after) (id : Nat) :
    v.successes id = returnedOn id before
  passed {id : Nat} {r : Verdict (Value U)} : .returned id r ∈ l → r.Passed
  allPassed {v : World U S} : v = w ∨ .moment v ∈ l → v.AllPassed
  grows {before between after : Account U S} {v v' : World U S}
    (h : l = before ++ .moment v :: (between ++ .moment v' :: after)) (id : Nat) :
    v.successes id <+: v'.successes id ∧ v'.successes id <+: w.successes id

/-- A faithful account of all successes there are. -/
theorem Account.Faithful.tells {l : Account U S} {w : World U S} (h : Faithful (fun _ => []) l)
    (hnow : ∀ id, w.successes id = returnedOn id l) : Tells l w := by
  have hmoments {before after : Account U S} {v : World U S} (hl : l = before ++ .moment v :: after) (id : Nat) :
      v.successes id = returnedOn id before := by
    rw [hl] at h
    exact h.moment id
  have hpassed {part : Account U S} (hpart : part ⊆ l) {id : Nat} {r : Verdict (Value U)}
      (hr : r ∈ returnedOn id part) : r.Passed :=
    h.passed (hpart (mem_returnedOn.mp hr))
  refine ⟨hnow, hmoments, h.passed, ?_, fun {before between after v v'} hl id => ?_⟩
  · rintro v (rfl | hv) id r hr
    · rw [hnow] at hr
      exact hpassed (List.Subset.refl l) hr
    · obtain ⟨before, after, hl⟩ := List.append_of_mem hv
      rw [hmoments hl] at hr
      exact hpassed (hl ▸ List.subset_append_left _ _) hr
  · have hsecond : l = (before ++ .moment v :: between) ++ .moment v' :: after := by
      rw [hl, List.append_assoc]
      rfl
    rw [hmoments hl, hmoments hsecond, hnow]
    constructor
    · rw [returnedOn_append]
      exact List.prefix_append _ _
    · rw [hsecond, returnedOn_append id (before ++ .moment v :: between)]
      exact List.prefix_append _ _

/-! ## Worlds that can be reached -/

/-- The worlds that can be reached while an account is kept from the beginning on. -/
inductive Host.Audited (h : Host U S) : World U (S × Account U S) → Prop
  | initial (s : S) (verbose : Bool) : h.Audited ((World.initial s verbose).beside [])
  | declare (n : Nat) (description block : Value U) {w : World U (S × Account U S)} : h.Audited w →
    h.Audited ((h.accountant n).buildGroup description block w).2
  | run (n : Nat) (r : Reporting) (ev : Evaluator (Value U)) (limit root : Nat) {w : World U (S × Account U S)} :
    h.Audited w → h.Audited ((h.accountant n).runOrExit r ev limit root w).2
  | alone (n : Nat) (r : Reporting) (ev : Evaluator (Value U)) (limit : Nat) (d : Declaration (Value U))
    {w : World U (S × Account U S)} : h.Audited w → h.Audited ((h.accountant n).runAlone r ev limit d w).2
  | single (n : Nat) (ev : Evaluator (Value U)) (x : Example (Value U)) {w : World U (S × Account U S)} :
    h.Audited w → h.Audited ((h.accountant n).runExample ev x w).2
  | scope (ev : Evaluator (Value U)) (x : Example (Value U)) {w : World U (S × Account U S)} : h.Audited w →
    h.Audited (w.opened x ev)
  | program (n : Nat) {α : Type} (p : Program U S α) {w : World U (S × Account U S)} : h.Audited w →
    h.Audited ((h.accountant n).run p.beside w).2

namespace Host.Audited

variable {h : Host U S} {w : World U (S × Account U S)}

/-- The account is faithful from the beginning on. -/
theorem leads (hw : h.Audited w) :
    ∃ s verbose, (accountCourse U S).leads ((World.initial s verbose).beside []) w := by
  have hserves := h.serves_accountant
  have hlater {w w' : World U (S × Account U S)} (hw : (accountCourse U S).leads w w') :
      (∃ s verbose, (accountCourse U S).leads ((World.initial s verbose).beside []) w) →
      ∃ s verbose, (accountCourse U S).leads ((World.initial s verbose).beside []) w' :=
    fun ⟨s, verbose, hl⟩ => ⟨s, verbose, (accountCourse U S).trans hl hw⟩
  induction hw with
  | initial s verbose => exact ⟨s, verbose, (accountCourse U S).refl _⟩
  | declare n description block _ ih => exact hlater ((hserves n).buildGroup description block _) ih
  | run n r ev limit root _ ih => exact hlater ((hserves n).runOrExit r ev limit root _) ih
  | alone n r ev limit d _ ih => exact hlater ((hserves n).runAlone r ev limit d _) ih
  | single n ev x _ ih => exact hlater ((hserves n).runExample ev x _) ih
  | scope ev x _ ih => exact hlater (Course.openScope x ev _) ih
  | program n p _ ih => exact hlater ((hserves n).run p _) ih

theorem tells (hw : h.Audited w) : Account.Tells w.outside.2 w.forget := by
  obtain ⟨s, verbose, new, hnew, hfaithful, hlast⟩ := hw.leads
  obtain rfl : w.outside.2 = new := hnew
  exact hfaithful.tells hlast

end Host.Audited

/-- The second run does what the first one does, and something to the account. -/
def Accounts (x : Run U S α) (x' : Run U (S × Account U S) α) : Prop :=
  ∀ w, (x' w).1 = (x w.forget).1 ∧ (x' w).2.forget = (x w.forget).2

theorem Accounts.of_runs {x : Run U S α} {x' : Run U (S × Account U S) α} (hx : (Twin.accounted U S).Runs Eq x x') :
    Accounts x x' := by
  intro w
  obtain ⟨hend, hforget, -⟩ := hx () w.forget w ⟨rfl, trivial⟩
  exact ⟨hend.eq.symm, hforget⟩

namespace Host

variable (h : Host U S) (n : Nat)

theorem accounts_declare (description block : Value U) :
    Accounts ((h.engine n).buildGroup description block) ((h.accountant n).buildGroup description block) :=
  .of_runs ((h.abreast_accountant n).buildGroup_aside description block)

theorem accounts_run (r : Reporting) (ev : Evaluator (Value U)) (limit root : Nat) :
    Accounts ((h.engine n).runOrExit r ev limit root) ((h.accountant n).runOrExit r ev limit root) :=
  .of_runs ((h.abreast_accountant n).runOrExit_aside r ev limit root)

theorem accounts_alone (r : Reporting) (ev : Evaluator (Value U)) (limit : Nat) (d : Declaration (Value U)) :
    Accounts ((h.engine n).runAlone r ev limit d) ((h.accountant n).runAlone r ev limit d) :=
  .of_runs ((h.abreast_accountant n).runAlone_aside r ev limit d)

theorem accounts_single (ev : Evaluator (Value U)) (x : Example (Value U)) :
    Accounts ((h.engine n).runExample ev x) ((h.accountant n).runExample ev x) :=
  .of_runs ((h.abreast_accountant n).runExample_aside ev x)

theorem accounts_program (p : Program U S α) : Accounts (h.exec n p) ((h.accountant n).run p.beside) :=
  .of_runs ((h.abreast_accountant n).run (Twin.aside_beside.program p))

/-- What can be reached without an account can be reached with one, and no more. -/
theorem reached_iff_audited (w : World U S) : h.Reached w ↔ ∃ w', h.Audited w' ∧ w'.forget = w := by
  constructor
  · intro hw
    induction hw with
    | initial s verbose => exact ⟨_, .initial s verbose, rfl⟩
    | declare n description block _ ih =>
      obtain ⟨w', hw', rfl⟩ := ih
      exact ⟨_, .declare n description block hw', (h.accounts_declare n description block w').2⟩
    | run n r ev limit root _ ih =>
      obtain ⟨w', hw', rfl⟩ := ih
      exact ⟨_, .run n r ev limit root hw', (h.accounts_run n r ev limit root w').2⟩
    | alone n r ev limit d _ ih =>
      obtain ⟨w', hw', rfl⟩ := ih
      exact ⟨_, .alone n r ev limit d hw', (h.accounts_alone n r ev limit d w').2⟩
    | single n ev x _ ih =>
      obtain ⟨w', hw', rfl⟩ := ih
      exact ⟨_, .single n ev x hw', (h.accounts_single n ev x w').2⟩
    | scope ev x _ ih =>
      obtain ⟨w', hw', rfl⟩ := ih
      exact ⟨_, .scope ev x hw', rfl⟩
    | program n p _ ih =>
      obtain ⟨w', hw', rfl⟩ := ih
      exact ⟨_, .program n p hw', (h.accounts_program n p w').2⟩
  · rintro ⟨w', hw', rfl⟩
    induction hw' with
    | initial s verbose => exact .initial s verbose
    | declare n description block _ ih =>
      rw [(h.accounts_declare n description block _).2]
      exact .declare n description block ih
    | run n r ev limit root _ ih =>
      rw [(h.accounts_run n r ev limit root _).2]
      exact .run n r ev limit root ih
    | alone n r ev limit d _ ih =>
      rw [(h.accounts_alone n r ev limit d _).2]
      exact .alone n r ev limit d ih
    | single n ev x _ ih =>
      rw [(h.accounts_single n ev x _).2]
      exact .single n ev x ih
    | scope ev x _ ih => exact .scope ev x ih
    | program n p _ ih =>
      rw [(h.accounts_program n p _).2]
      exact .program n p ih

end Host

/-- Whatever the code of a specification does and whoever judges, an account can be kept from the beginning on: programs
and examples do the same, the same worlds can be reached, and in each of them, as at every moment on the way there, the
successes of a scope are exactly the results with which demands on it have come back, in that order. -/
theorem Host.successes_accounted (h : Host U S) :
    (∀ n, (∀ {α : Type} (p : Program U S α), Accounts (h.exec n p) ((h.accountant n).run p.beside)) ∧
      ∀ ev x, Accounts ((h.engine n).runExample ev x) ((h.accountant n).runExample ev x)) ∧
    (∀ w, h.Reached w ↔ ∃ w', h.Audited w' ∧ w'.forget = w) ∧
    ∀ w', h.Audited w' → Account.Tells w'.outside.2 w'.forget :=
  ⟨fun n => ⟨h.accounts_program n, h.accounts_single n⟩, h.reached_iff_audited, fun _ hw' => hw'.tells⟩

/-- The body under 0 expects 9 to satisfy the block under 1, and then 5 not to be 5; that fails, and is caught. The
block under 1 expects 3 to be 3 before it answers. -/
def containingCode : NumberedCode
  | 0, [.scope id] => do
    let _ ← Program.ask (.require ⟨.value (.user 9), .standard, some id⟩ false ⟨.absent, .satisfies (.user 1) .absent⟩)
    let _ ← Program.attempt
      (.ask (.require ⟨.value (.user 5), .standard, some id⟩ true ⟨.absent, .equalTo (.user 5)⟩))
    Pure.pure .absent
  | 1, _ => do
    let _ ← Program.ask (.require ⟨.value (.user 3), .standard, some 0⟩ false ⟨.absent, .equalTo (.user 3)⟩)
    Pure.pure (.flag true)
  | _, _ => Pure.pure .absent

/-- The inner expectation comes back first, and the one that was not met does not. -/
example :
    let x := ((Host.numbers (fun _ => false) containingCode).accountant 2).runExample .standard
      ⟨.absent, 0, 0, some (.user 0), .absent⟩
    let l := (x ((World.initial () false).beside [])).2.outside.2
    (Account.returnedOn 0 l).map (·.actual) = [.user 3, .user 9] := rfl

end Exemplar

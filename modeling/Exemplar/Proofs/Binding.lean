import Exemplar.Proofs.Bodies
import Exemplar.Proofs.ParameterOrder
import Exemplar.Script.Host

/-!
# Exemplar.Proofs.Binding — arguments that fit a list of parameters

How many arguments a callable is given is counted from its parameters; whether a call goes through is decided by the
rules for calls. Here the rules are told once more, as a relation that reads the parameters from left to right and hands
the arguments out, and the count is held against it: what is passed is as much of what is on offer as can be.

* `Fills`, `Signature.fills_iff`: a call goes through if the arguments fill the parameters.
* `Signature.lacks_iff`: which calls with as many arguments as counted are refused.
* `Engine.callWith_binds`: what blocks, bodies and producers are called with, and when that is refused.
* `Script.callWith_function`: the same of the functions of a specification, which refuse calls by these rules.
-/

namespace Exemplar

variable {U S : Type}

/-! ## Calls that go through -/

/-- So many positional arguments, and no others, are enough for the parameters and not too many: from left to right
every parameter receives its argument, or can do without, and the last argument has found its parameter. -/
inductive Fills : List Param → Nat → Prop
  | nil : Fills [] 0
  | slot {p : Param} {ps : List Param} {n : Nat} (hp : p.isSlot) (h : Fills ps n) : Fills (p :: ps) (n + 1)
  | default {p : Param} {ps : List Param} (hp : p.isSlot) (ho : p.optional) (h : Fills ps 0) : Fills (p :: ps) 0
  | rest {p : Param} {ps : List Param} {n : Nat} (hp : p.kind = .rest) (h : Fills ps 0) : Fills (p :: ps) n
  | keyword {p : Param} {ps : List Param} {n : Nat} (hp : p.kind = .keywordOnly) (ho : p.optional) (h : Fills ps n) :
    Fills (p :: ps) n
  | keywords {p : Param} {ps : List Param} {n : Nat} (hp : p.kind = .keywords) (h : Fills ps n) : Fills (p :: ps) n

namespace Signature

theorem required_cons (p : Param) (ps : List Param) :
    required (p :: ps) = if p.optional then required ps else p :: required ps := by
  cases h : p.optional <;> simp [required, h]

theorem bindFault?_eq_none_iff (s : Signature) (n : Nat) :
    s.bindFault? n = none ↔
      (s.hasRest ∨ n ≤ s.slots.length) ∧ required (s.slots.drop n) = [] ∧ required s.keywordOnly = [] := by
  unfold bindFault?
  by_cases hr : s.hasRest = true
  · cases required (s.slots.drop n) <;> cases required s.keywordOnly <;> simp [hr]
  · by_cases hn : s.slots.length < n
    · simp [hr, hn, Nat.not_le.mpr hn]
    · cases required (s.slots.drop n) <;> cases required s.keywordOnly <;> simp [hr, hn, Nat.le_of_not_lt hn]

/-! ### One parameter more -/

section
variable {p : Param} {ps : List Param}

theorem slots_cons (hp : p.isSlot) : slots ⟨p :: ps⟩ = p :: slots ⟨ps⟩ := List.filter_cons_of_pos hp

theorem slots_cons_of_not (hp : ¬ p.isSlot) : slots ⟨p :: ps⟩ = slots ⟨ps⟩ := List.filter_cons_of_neg hp

theorem keywordOnly_cons (hp : p.kind = .keywordOnly) : keywordOnly ⟨p :: ps⟩ = p :: keywordOnly ⟨ps⟩ :=
  List.filter_cons_of_pos (by simp [hp])

theorem keywordOnly_cons_of_ne (hp : p.kind ≠ .keywordOnly) : keywordOnly ⟨p :: ps⟩ = keywordOnly ⟨ps⟩ :=
  List.filter_cons_of_neg (by simpa using hp)

theorem hasRest_cons_of_ne (hp : p.kind ≠ .rest) : hasRest ⟨p :: ps⟩ = hasRest ⟨ps⟩ := by
  have h : (p.kind == .rest) = false := by simpa using hp
  simp [hasRest, h]

theorem hasRest_cons (hp : p.kind = .rest) : hasRest ⟨p :: ps⟩ = true := by simp [hasRest, hp]

/-- Nothing is filled by position behind the parameter that collects the rest. -/
theorem slots_of_rest (hw : WellFormed ⟨p :: ps⟩) (hp : p.kind = .rest) : slots ⟨ps⟩ = [] := by
  refine List.filter_eq_nil_iff.mpr fun q hq hslot => ?_
  have hrank : p.kind.rank ≤ q.kind.rank := ((List.pairwise_cons.mp hw).1 q hq).rank
  rw [hp] at hrank
  exact absurd (hrank.trans (Param.rank_of_isSlot hslot)) (by decide)

end

/-! ### Two readings of a list -/

/-- The rules for calls refuse exactly the calls whose arguments do not fill the parameters. -/
theorem fills_iff {s : Signature} (hw : s.WellFormed) (n : Nat) : Fills s.params n ↔ s.bindFault? n = none := by
  obtain ⟨ps⟩ := s
  rw [bindFault?_eq_none_iff]
  induction ps generalizing n with
  | nil =>
    constructor
    · rintro ⟨⟩
      exact ⟨.inr (Nat.le_refl _), rfl, rfl⟩
    · rintro ⟨hn, -, -⟩
      obtain rfl : n = 0 := by simpa [hasRest, slots] using hn
      exact .nil
  | cons p ps ih =>
    have hps : WellFormed ⟨ps⟩ := (List.pairwise_cons.mp hw).2
    replace ih := fun n => ih n hps
    cases hk : p.kind with
    | positionalOnly | positional =>
      have hslot : p.isSlot := by simp [Param.isSlot, hk]
      rw [slots_cons hslot, keywordOnly_cons_of_ne (by simp [hk]), hasRest_cons_of_ne (by simp [hk])]
      cases n with
      | zero =>
        have hleft : Fills (p :: ps) 0 ↔ p.optional ∧ Fills ps 0 :=
          ⟨by rintro (_ | _ | _ | _ | _ | _) <;> simp_all, fun h => .default hslot h.1 h.2⟩
        rw [hleft, ih, List.drop_zero, List.drop_zero, required_cons]
        cases p.optional <;> simp
      | succ n =>
        have hleft : Fills (p :: ps) (n + 1) ↔ Fills ps n :=
          ⟨by rintro (_ | _ | _ | _ | _ | _) <;> simp_all, .slot hslot⟩
        rw [hleft, ih, List.drop_succ_cons, List.length_cons, Nat.add_le_add_iff_right]
    | rest =>
      have hnone : slots ⟨ps⟩ = [] := slots_of_rest hw hk
      have hleft : Fills (p :: ps) n ↔ Fills ps 0 :=
        ⟨by rintro (_ | _ | _ | _ | _ | _) <;> simp_all [Param.isSlot], .rest hk⟩
      rw [hleft, ih, slots_cons_of_not (by simp [Param.isSlot, hk]), keywordOnly_cons_of_ne (by simp [hk]),
        hasRest_cons hk, hnone]
      simp
    | keywordOnly =>
      have hleft : Fills (p :: ps) n ↔ p.optional ∧ Fills ps n :=
        ⟨by rintro (_ | _ | _ | _ | _ | _) <;> simp_all [Param.isSlot], fun h => .keyword hk h.1 h.2⟩
      rw [hleft, ih, slots_cons_of_not (by simp [Param.isSlot, hk]), keywordOnly_cons hk,
        hasRest_cons_of_ne (by simp [hk]), required_cons]
      cases p.optional <;> simp
    | keywords =>
      have hleft : Fills (p :: ps) n ↔ Fills ps n :=
        ⟨by rintro (_ | _ | _ | _ | _ | _) <;> simp_all [Param.isSlot], .keywords hk⟩
      rw [hleft, ih, slots_cons_of_not (by simp [Param.isSlot, hk]), keywordOnly_cons_of_ne (by simp [hk]),
        hasRest_cons_of_ne (by simp [hk])]

/-- A list of parameters needs no arguments if none at all fill it. -/
theorem needsNothing_iff (s : Signature) : s.needsNothing ↔ s.bindFault? 0 = none := by
  rw [bindFault?_eq_none_iff]
  simp only [needsNothing, List.all_eq_true, required, slots, keywordOnly, List.drop_zero, Nat.zero_le, or_true,
    true_and, List.filter_eq_nil_iff, List.mem_filter]
  constructor
  · refine fun h => ⟨fun p hp => ?_, fun p hp => ?_⟩
    · simpa [Param.not_collects_of_isSlot hp.2] using h p hp.1
    · have := h p hp.1
      cases hk : p.kind <;> simp_all [Param.collects]
  · rintro ⟨hslots, hkeywords⟩ p hp
    cases hk : p.kind with
    | positionalOnly | positional =>
      have := hslots p ⟨hp, by simp [Param.isSlot, hk]⟩
      simp_all
    | keywordOnly =>
      have := hkeywords p ⟨hp, by simp [hk]⟩
      simp_all
    | rest | keywords => simp [Param.collects, hk]

/-! ## As many arguments as fit -/

/-- The arguments, out of those on offer, that a callable with these parameters is given. -/
def passed {α : Type} (s : Signature) (offered : List α) : List α := offered.take (s.arity offered.length)

/-- The refusal is for arguments that are missing. -/
def BindFault.Lacks : BindFault → Prop
  | .tooMany .. => False
  | .missing _ | .missingKeywords _ => True

section
variable {α : Type} (s : Signature) (offered : List α)

theorem length_passed : (s.passed offered).length = s.arity offered.length := by
  have hle : s.arity offered.length ≤ offered.length := arityOf_le (some s) _
  rw [passed, List.length_take, Nat.min_eq_left hle]

theorem passed_prefix : s.passed offered <+: offered := List.take_prefix _ _

end

/-- Where the parameters with defaults stand last, those without one are filled first. -/
theorem required_drop_eq_nil {ps : List Param} (h : ps.Pairwise fun p q => p.optional → q.optional) (n : Nat) :
    required (ps.drop n) = [] ↔ (required ps).length ≤ n := by
  induction ps generalizing n with
  | nil => simp [required]
  | cons p ps ih =>
    obtain ⟨hp, hps⟩ := List.pairwise_cons.mp h
    cases n with
    | zero => rw [List.drop_zero, Nat.le_zero, List.length_eq_zero_iff]
    | succ n =>
      rw [List.drop_succ_cons, ih hps, required_cons]
      cases ho : p.optional with
      | false => simp
      | true =>
        -- behind an optional parameter nothing is required
        have hnone : required ps = [] := List.filter_eq_nil_iff.mpr fun q hq => by simp [hp q hq ho]
        simp [hnone]

theorem WellFormed.slots_pairwise {s : Signature} (hw : s.WellFormed) :
    s.slots.Pairwise fun p q => p.optional → q.optional := by
  refine List.Pairwise.imp_of_mem ?_ (hw.filter Param.isSlot)
  intro p q hp hq hpq
  exact hpq.optional (List.mem_filter.mp hp).2 (List.mem_filter.mp hq).2

theorem lacks_or_none (s : Signature) (limit : Nat) :
    s.bindFault? (s.arity limit) = none ∨ ∃ fault, s.bindFault? (s.arity limit) = some fault ∧ fault.Lacks := by
  rcases h : s.bindFault? (s.arity limit) with _ | ⟨least, most, given⟩ | names | names
  · exact .inl rfl
  · exact absurd h (s.bindFault?_arity_ne_tooMany limit least most given)
  · exact .inr ⟨_, rfl, trivial⟩
  · exact .inr ⟨_, rfl, trivial⟩

/-- A call with as many arguments as counted is refused just where a keyword has no default or there are not enough
arguments for the parameters that have none. -/
theorem lacks_iff {s : Signature} (hw : s.WellFormed) (limit : Nat) :
    (∃ fault, s.bindFault? (s.arity limit) = some fault ∧ fault.Lacks) ↔
      (∃ p ∈ s.params, p.kind = .keywordOnly ∧ ¬ p.optional) ∨ limit < (required s.slots).length := by
  have hslots : required (s.slots.drop (s.arity limit)) = [] ↔ (required s.slots).length ≤ limit := by
    rw [required_drop_eq_nil hw.slots_pairwise, arity]
    have hle : (required s.slots).length ≤ s.slots.length := List.length_filter_le _ _
    split <;> omega
  have hkeywords : required s.keywordOnly = [] ↔ ¬ ∃ p ∈ s.params, p.kind = .keywordOnly ∧ ¬ p.optional := by
    simp only [required, keywordOnly, List.filter_eq_nil_iff, List.mem_filter, beq_iff_eq, Bool.not_eq_true',
      not_exists, not_and, Bool.not_eq_true, and_imp, Bool.not_eq_false]
  have hfits : s.hasRest ∨ s.arity limit ≤ s.slots.length := by
    by_cases hr : s.hasRest = true
    · exact .inl hr
    · rw [arity, if_neg hr]
      exact .inr (Nat.min_le_left _ _)
  have hnone : s.bindFault? (s.arity limit) = none ↔
      (required s.slots).length ≤ limit ∧ ¬ ∃ p ∈ s.params, p.kind = .keywordOnly ∧ ¬ p.optional := by
    rw [bindFault?_eq_none_iff, hslots, hkeywords]
    exact and_iff_right hfits
  rcases s.lacks_or_none limit with h | ⟨fault, h, hlacks⟩
  · have := hnone.mp h
    simp only [h, reduceCtorEq, false_and, exists_false, false_iff, not_or, Nat.not_lt]
    exact ⟨this.2, this.1⟩
  · have := mt hnone.mpr (by simp [h])
    refine iff_of_true ⟨fault, h, hlacks⟩ ?_
    by_contra hno
    rw [not_or, Nat.not_lt] at hno
    exact this ⟨hno.2, hno.1⟩

/-- One argument more than passed, where one more is on offer, does not fill the parameters. -/
theorem not_fills_of_longer {α : Type} {s : Signature} (hw : s.WellFormed) {offered longer : List α}
    (hlonger : longer <+: offered) (hlt : (s.passed offered).length < longer.length) :
    ¬ Fills s.params longer.length := by
  rw [length_passed] at hlt
  rw [fills_iff hw, bindFault?_of_arity_lt s hlt hlonger.length_le]
  simp

end Signature

/-! ## What callables are given -/

namespace Engine

variable (e : Engine U S) {f : Value U} {sig : Signature} {w : World U S}

/-- What becomes of a group whose block is called in this way. -/
def populating (group : Nat) (run : Run U S (Value U)) : Run U S Unit := do
  Action.ensure (do let _ ← run; pure ()) fun w => { w with forest := w.forest.closeGroup group }
  let w ← Action.get
  let path ← e.step (e.surface.fullText w.forest group)
  e.notice (pure (.declaredGroup path (w.forest.entries group).length))

theorem populating_congr {group : Nat} {run run' : Run U S (Value U)} (h : run w = run' w) :
    e.populating group run w = e.populating group run' w := by
  have hcall : (do let _ ← run; pure () : Run U S Unit) w = (do let _ ← run'; pure () : Run U S Unit) w := by
    rw [Action.bind_apply, Action.bind_apply, h]
  rw [populating, populating, Action.bind_apply, Action.bind_apply, Action.ensure_apply, Action.ensure_apply, hcall]

theorem callWith_passed (hsig : e.surface.parametersOf? f w.outside = some sig) (offered : List (Value U)) :
    e.callWith f offered w = e.call f (sig.passed offered) w := by
  rw [callWith, Action.get_bind_apply, Surface.argumentsFor, hsig]
  rfl

/-- A callable that can be inspected is called with the first of the arguments on offer: all of them where one
parameter collects the rest, and else one for each parameter that is filled by position. These are never too many, one
more would be, and the call is refused only where a keyword has no default or more arguments are needed than there
are. Blocks, bodies and producers are called in this way. -/
theorem callWith_binds (hsig : e.surface.parametersOf? f w.outside = some sig) (hw : sig.WellFormed) :
    (∀ offered, ∃ args, args <+: offered ∧
      args.length = (if sig.hasRest then offered.length else min sig.slots.length offered.length) ∧
      e.callWith f offered w = e.call f args w ∧
      (∀ least most given, sig.bindFault? args.length ≠ some (.tooMany least most given)) ∧
      (∀ longer, longer <+: offered → args.length < longer.length → ¬ Fills sig.params longer.length) ∧
      ((∃ fault, sig.bindFault? args.length = some fault ∧ fault.Lacks) ↔
        (∃ p ∈ sig.params, p.kind = .keywordOnly ∧ ¬ p.optional) ∨
          offered.length < (Signature.required sig.slots).length) ∧
      (sig.bindFault? args.length = none ↔ Fills sig.params args.length)) ∧
    (∀ group, e.populate group f w = e.populating group (e.call f (sig.passed [.builder group])) w) ∧
    (∀ display scope,
      e.settle display scope (e.callWith f [.scope scope]) w =
        e.settle display scope (e.call f (sig.passed [.scope scope])) w) ∧
    (∀ c : OuterCall (Value U), c.current.producer = .callable f →
      e.produce c w = e.call f (sig.passed [.scope c.scope, .outer c]) w) := by
  refine ⟨fun offered => ⟨sig.passed offered, sig.passed_prefix offered, ?_⟩, fun group => ?_, fun display scope => ?_,
    fun c hc => ?_⟩
  · have hlength := sig.length_passed offered
    refine ⟨hlength, e.callWith_passed hsig offered, ?_, fun longer => Signature.not_fills_of_longer hw, ?_,
      (Signature.fills_iff hw _).symm⟩
    · rw [hlength]
      exact sig.bindFault?_arity_ne_tooMany offered.length
    · rw [hlength]
      exact Signature.lacks_iff hw offered.length
  · exact e.populating_congr (e.callWith_passed hsig _)
  · exact e.settle_congr (e.callWith_passed hsig _)
  · rw [produce, hc]
    exact e.callWith_passed hsig _

end Engine

/-- A parameter filled by position alone, one with a default, one by keyword, and one that collects keywords. -/
def mixedParams : List Param :=
  [⟨"a", .positionalOnly, false⟩, ⟨"b", .positional, true⟩, ⟨"k", .keywordOnly, true⟩, ⟨"more", .keywords, false⟩]

/-- The numbers as functions with these parameters, which do nothing. -/
def Host.mixed : Host Nat Unit :=
  { Host.numbers (fun _ => false) (fun _ _ => .pure .absent) with signature? := fun _ _ => some ⟨mixedParams⟩ }

/-- Out of three arguments such a function is given two, which fill its parameters. -/
theorem callWith_binds_mixed :
    Signature.WellFormed ⟨mixedParams⟩ ∧ ∃ args, args <+: [.flag true, .flag false, .absent] ∧ args.length = 2 ∧
      (Host.mixed.engine 1).callWith (.user 0) [.flag true, .flag false, .absent] (World.initial () false) =
        (Host.mixed.engine 1).call (.user 0) args (World.initial () false) ∧
      Fills mixedParams 2 ∧ ¬ Fills mixedParams 3 := by
  have hw : Signature.WellFormed ⟨mixedParams⟩ := by decide
  have hbinds := (Host.mixed.engine 1).callWith_binds (f := .user 0) (w := World.initial () false) rfl hw
  obtain ⟨args, hprefix, hlength, hcall, -, hlonger, -, hfills⟩ := hbinds.1 [.flag true, .flag false, .absent]
  have hlength : args.length = 2 := hlength
  refine ⟨hw, args, hprefix, hlength, hcall, ?_, ?_⟩
  · rw [hlength] at hfills
    exact hfills.mp (by decide)
  · exact hlonger [.flag true, .flag false, .absent] (List.prefix_refl _) (by rw [hlength]; decide)

/-! ## Functions of a specification -/

namespace Script

variable (t : ClassTable) (n : Nat)

/-- What a refused call leaves: a new error of that class, which is raised. -/
def refused (cls message : String) (w : World Atom Store) : Ending (Exn V) V × World Atom Store :=
  let (v, s) := w.outside.add (.error (.named cls) [.text message] [])
  (.raised (.thrown v), w.withOutside s)

theorem exec_bindArguments (callee : String) (params : List Param) (given : Nat) (p : Code V) (w : World Atom Store) :
    (host t).exec (n + 1) (do bindArguments callee params given; p) w =
      match (⟨params⟩ : Signature).bindFault? given with
      | none => (host t).exec (n + 1) p w
      | some fault => refused "TypeError" (fault.message callee) w := by
  show ((host t).exec (n + 1) (bindArguments callee params given) >>= fun _ => (host t).exec (n + 1) p) w = _
  unfold bindArguments
  cases (⟨params⟩ : Signature).bindFault? given with
  | none => rfl
  | some fault =>
    refine Action.bind_raised (((host t).engine n).step_of_raised ?_)
    rfl

/-- A function that is called with as many of the arguments as it takes does what its body says if the arguments fill
its parameters, and else it raises an error about those that are missing. -/
theorem callWith_function {i : Nat} {params : List Param} {body : Expr} {kept : Option Frame} {w : World Atom Store}
    (hfn : w.outside.obj i = .fn params body kept) (hw : Signature.WellFormed ⟨params⟩) (offered : List V) :
    let args := Signature.passed ⟨params⟩ offered
    (Fills params args.length → ((host t).engine (n + 1)).callWith (.user (.ref i)) offered w =
      (host t).exec (n + 1) (eval t body (frameFor kept args)) w) ∧
    (¬ Fills params args.length → ∃ fault : Signature.BindFault, fault.Lacks ∧
      ((host t).engine (n + 1)).callWith (.user (.ref i)) offered w =
        refused "TypeError" (fault.message anonymousFunction) w) := by
  intro args
  have hsig : (surface t).parametersOf? (.user (.ref i)) w.outside = some ⟨params⟩ := by
    show signatureOf? t (.user (.ref i)) w.outside = _
    simp only [signatureOf?, Store.objOf?, hfn]
  have hrun : ((host t).engine (n + 1)).callWith (.user (.ref i)) offered w =
      (host t).exec (n + 1) (do
        bindArguments anonymousFunction params args.length
        eval t body (frameFor kept args)) w := by
    rw [((host t).engine (n + 1)).callWith_passed hsig, ← callObject_fn t (.user (.ref i)), ← hfn]
    rfl
  rw [Signature.fills_iff hw, hrun, exec_bindArguments, Signature.length_passed]
  refine ⟨fun hfill => by rw [hfill], fun hfill => ?_⟩
  obtain ⟨fault, hfault, hlacks⟩ := (Signature.lacks_or_none ⟨params⟩ offered.length).resolve_left hfill
  exact ⟨fault, hlacks, by rw [hfault]⟩

end Script
end Exemplar

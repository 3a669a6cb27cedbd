import Exemplar.Proofs.Binding

/-!
# Exemplar.Proofs.Targets — the subject that a described value supplies

A described class supplies a new instance where it can be called without arguments, and any other described value
supplies itself. Whether a class can be called is predicted from its parameters. Where they can be inspected the
prediction is right; a class that cannot be inspected is always called, whether or not it wants arguments.

* `Surface.isConstructible_iff`: what the prediction says.
* `Engine.defaultSubject_of_constructible`, `Engine.defaultSubject_of_not_constructible`: what follows from it.
* `Script.call_constructor`: a call of a class with a constructor of its own, by the parameters of the constructor.
* `Script.defaultSubject_predicted`: the default subject of every value of a specification.
-/

namespace Exemplar

variable {U S : Type}

/-! ## The prediction -/

theorem Surface.isConstructible_iff (sf : Surface U S) (v : Value U) (s : S) :
    sf.isConstructible v s ↔ ∃ c, sf.class? v s = some c ∧ ¬ c.isAbstract ∧
      ∀ sig, c.signature? = some sig → sig.bindFault? 0 = none := by
  unfold isConstructible
  cases sf.class? v s with
  | none => simp
  | some c =>
    simp only [Bool.and_eq_true, Bool.not_eq_true', Option.some.injEq, exists_eq_left', Bool.not_eq_true]
    refine and_congr_right fun _ => ?_
    cases c.signature? with
    | none => simp
    | some sig => simpa using sig.needsNothing_iff

namespace Engine

variable (e : Engine U S) {v : Value U} {w : World U S}

theorem defaultSubject_of_constructible (hv : e.surface.isConstructible v w.outside) :
    e.defaultSubject v w = e.call v [] w := by
  rw [defaultSubject, Action.get_bind_apply, if_pos hv]

theorem defaultSubject_of_not_constructible (hv : ¬ e.surface.isConstructible v w.outside) :
    e.defaultSubject v w = (.done v, w) := by
  rw [defaultSubject, Action.get_bind_apply, if_neg hv]
  rfl

end Engine

/-! ## Classes of a specification -/

namespace Script

variable (t : ClassTable) (n : Nat)

/-- What the constructor of a class does with an instance once its parameters have their arguments. -/
def construction (d : ClassDef) (made : V) : Code V := do
  if d.traced then .ask (.note [.text "trace", .text ("new " ++ d.name)])
  match d.raises with
  | some e => do
    let error ← eval t e .empty
    raiseValue t error
  | none => pure made

theorem class?_eq_some {v : V} {s : Store} {info : ClassInfo} (h : (surface t).class? v s = some info) :
    ∃ c, v = .user (.cls c) ∧ info = t.info c := by
  cases v with
  | user u =>
    cases u with
    | cls c => exact ⟨c, rfl, (Option.some.inj h).symm⟩
    | _ => cases h
  | _ => cases h

theorem isConstructible_iff (v : V) (s : Store) :
    (surface t).isConstructible v s ↔ ∃ c, v = .user (.cls c) ∧ ¬ t.isAbstract c ∧
      ∀ sig, t.signature? c = some sig → sig.bindFault? 0 = none := by
  rw [Surface.isConstructible_iff]
  constructor
  · rintro ⟨info, hclass, habstract, hfills⟩
    obtain ⟨c, rfl, rfl⟩ := class?_eq_some t hclass
    exact ⟨c, rfl, habstract, hfills⟩
  · rintro ⟨c, rfl, habstract, hfills⟩
    exact ⟨t.info c, rfl, habstract, hfills⟩

/-- The instance itself is the first argument of a constructor, and is never one too many. -/
theorem arity_constructor (params : List Param) :
    (⟨neededParam selfName :: params⟩ : Signature).arity 1 = 1 := by
  have hslots : (⟨neededParam selfName :: params⟩ : Signature).slots =
      neededParam selfName :: Signature.slots ⟨params⟩ := Signature.slots_cons rfl
  unfold Signature.arity
  rw [hslots, List.length_cons]
  split <;> omega

theorem bindFault?_constructor (params : List Param) :
    (⟨neededParam selfName :: params⟩ : Signature).bindFault? 1 = none ↔
      (⟨params⟩ : Signature).bindFault? 0 = none := by
  rw [Signature.bindFault?_eq_none_iff, Signature.bindFault?_eq_none_iff, Signature.slots_cons rfl,
    Signature.keywordOnly_cons_of_ne (by simp [neededParam]), Signature.hasRest_cons_of_ne (by simp [neededParam])]
  simp

section
variable {c : Cls} {d : ClassDef} {w w' : World Atom Store} {made : V}

/-- A class with a constructor of its own is called without arguments: the instance is made, and then the constructor
does what it does if its parameters need no arguments, and else it refuses the call for what is missing. -/
theorem call_constructor (hd : t.constructorOf? c = some d) (hc : ¬ t.isAbstract c)
    (hmade : (host t).exec (n + 1) (bareInstance t c []) w = (.done made, w')) :
    ((⟨d.constructorParams⟩ : Signature).bindFault? 0 = none → ((host t).engine (n + 1)).call (.user (.cls c)) [] w =
      (host t).exec (n + 1) (construction t d made) w') ∧
    ((⟨d.constructorParams⟩ : Signature).bindFault? 0 ≠ none → ∃ fault : Signature.BindFault, fault.Lacks ∧
      ((host t).engine (n + 1)).call (.user (.cls c)) [] w = refused "TypeError" (fault.message anonymousFunction) w') := by
  have hinstances : t.refusesInstances c = false := by simp [ClassTable.refusesInstances, hc]
  have hcall : ((host t).engine (n + 1)).call (.user (.cls c)) [] w = (host t).exec (n + 1) (do
      bindArguments anonymousFunction (neededParam selfName :: d.constructorParams) 1
      construction t d made) w' := by
    have hrun : ((host t).engine (n + 1)).call (.user (.cls c)) [] w =
        (host t).exec (n + 1) (construct t c []) w := rfl
    rw [hrun, construct, hd]
    simp only [hinstances, Bool.false_eq_true, if_false]
    exact Action.bind_done hmade
  rw [hcall, exec_bindArguments]
  refine ⟨fun hnone => ?_, fun hsome => ?_⟩
  · rw [(bindFault?_constructor _).mpr hnone]
  · have hself := Signature.lacks_or_none ⟨neededParam selfName :: d.constructorParams⟩ 1
    rw [arity_constructor] at hself
    obtain ⟨fault, hfault, hlacks⟩ := hself.resolve_left (mt (bindFault?_constructor _).mp hsome)
    exact ⟨fault, hlacks, by rw [hfault]⟩

end

/-- The subject that a described value supplies. The check holds of just the classes that are not abstract and whose
parameters, as far as they can be inspected, need no arguments; what it does not hold of supplies itself. Of a class
with a constructor of its own, whose instances can be made, the check tells the truth: where it holds, the subject is
what the constructor leaves of a new instance, and where it does not, a call would be refused for what is missing. -/
theorem defaultSubject_predicted (v : V) (w : World Atom Store) :
    ((surface t).isConstructible v w.outside ↔ ∃ c, v = .user (.cls c) ∧ ¬ t.isAbstract c ∧
      ∀ sig, t.signature? c = some sig → sig.bindFault? 0 = none) ∧
    (¬ (surface t).isConstructible v w.outside → ((host t).engine (n + 1)).defaultSubject v w = (.done v, w)) ∧
    (∀ c, v = .user (.cls c) → (surface t).isConstructible v w.outside →
      ((host t).engine (n + 1)).defaultSubject v w = (host t).exec (n + 1) (construct t c []) w) ∧
    (∀ c d made w', v = .user (.cls c) → t.constructorOf? c = some d → ¬ t.isAbstract c →
      (host t).exec (n + 1) (bareInstance t c []) w = (.done made, w') →
      ((surface t).isConstructible v w.outside →
        ((host t).engine (n + 1)).defaultSubject v w = (host t).exec (n + 1) (construction t d made) w') ∧
      (¬ (surface t).isConstructible v w.outside → ∃ fault : Signature.BindFault, fault.Lacks ∧
        ((host t).engine (n + 1)).call v [] w = refused "TypeError" (fault.message anonymousFunction) w')) := by
  refine ⟨isConstructible_iff t v w.outside, fun hv => ?_, ?_, ?_⟩
  · exact ((host t).engine (n + 1)).defaultSubject_of_not_constructible hv
  · rintro c rfl hv
    exact ((host t).engine (n + 1)).defaultSubject_of_constructible hv
  · rintro c d made w' rfl hd hc hmade
    have hsig : t.signature? c = some ⟨d.constructorParams⟩ := by rw [ClassTable.signature?, hd]
    have hcheck : (surface t).isConstructible (.user (.cls c)) w.outside ↔
        (⟨d.constructorParams⟩ : Signature).bindFault? 0 = none := by
      rw [isConstructible_iff]
      constructor
      · rintro ⟨c', hc', -, hfills⟩
        cases hc'
        exact hfills _ hsig
      · intro hnone
        refine ⟨c, rfl, hc, fun sig hs => ?_⟩
        obtain rfl : sig = ⟨d.constructorParams⟩ := by rw [hsig] at hs; exact (Option.some.inj hs).symm
        exact hnone
    obtain ⟨hgood, hbad⟩ := call_constructor t n hd hc hmade
    refine ⟨fun hv => ?_, fun hv => hbad (mt hcheck.mpr hv)⟩
    rw [((host t).engine (n + 1)).defaultSubject_of_constructible hv]
    exact hgood (hcheck.mp hv)

/-- A class whose constructor has these parameters. -/
def classWith (name : String) (params : List Param) : ClassDef :=
  ⟨name, name, none, some (.ok params), false, false, none, none, none⟩

/-- A class whose constructor has an optional parameter, and one whose constructor wants a keyword. -/
def twoClasses : ClassTable :=
  ⟨#[classWith "Ready" [optionalParam "a1"], classWith "Choosy" [⟨"a1", .keywordOnly, false⟩]], "SpecNestError", []⟩

/-- The first class supplies a new instance, the second one supplies itself. -/
theorem defaultSubject_predicted_classes :
    (∃ made w', (host twoClasses).exec 2 (bareInstance twoClasses (.own 0) []) (World.initial .empty false) =
        (.done made, w') ∧
      ((host twoClasses).engine 2).defaultSubject (.user (.cls (.own 0))) (World.initial .empty false) =
        (.done made, w')) ∧
    ((host twoClasses).engine 2).defaultSubject (.user (.cls (.own 1))) (World.initial .empty false) =
      (.done (.user (.cls (.own 1))), World.initial .empty false) := by
  constructor
  · have hlaw := defaultSubject_predicted twoClasses 1 (.user (.cls (.own 0))) (World.initial .empty false)
    refine ⟨_, _, rfl, ?_⟩
    exact (hlaw.2.2.2 (.own 0) (classWith "Ready" [optionalParam "a1"]) _ _ rfl rfl (by decide) rfl).1
      (by decide)
  · have hlaw := defaultSubject_predicted twoClasses 1 (.user (.cls (.own 1))) (World.initial .empty false)
    exact hlaw.2.1 (by decide)

/-- No classes but the known ones. -/
def knownClasses : ClassTable := ⟨#[], "SpecNestError", []⟩

/-- A class of progressions cannot be inspected and is therefore taken for one that needs no arguments, but its call
without arguments is refused. -/
theorem progression_wants_arguments :
    (surface knownClasses).isConstructible (.user (.cls (.named "range"))) Store.empty = true ∧
    ((host knownClasses).engine 2).defaultSubject (.user (.cls (.named "range"))) (World.initial .empty false) =
      refused "TypeError" "range expected at least 1 argument, got 0" (World.initial .empty false) := by
  constructor
  · decide
  · rfl

end Script
end Exemplar

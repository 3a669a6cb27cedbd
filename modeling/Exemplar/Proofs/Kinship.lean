import Exemplar.World
import Mathlib.Data.List.Forall2

/-!
# Exemplar.Proofs.Kinship — values that two runs have in common

Two runs of the same code need not give out the same numbers for scopes, recorders and functions outward. So values
of the one are compared with values of the other by a relation: texts and truth values by equality, handles by
relations on their numbers, and the specification's own values as the specification wants. The relation carries over
to all that is made of values.

* `Kinship`: such a relation, closed under the forms of values.
* `Kinship.same`: the relation of equality, under which everything alike is equal.
-/

namespace Exemplar

variable {U V V' : Type}

/-! ## What is made of values -/

/-- Two names that are texts are the same text, and any others stand under the same key. -/
inductive HelperName.Like (R : V → V' → Prop) : HelperName V → HelperName V' → Prop
  | text (s : String) : Like R (.text s) (.text s)
  | textLike (s : String) {v : V} {v' : V'} (h : R v v') : Like R (.textLike s v) (.textLike s v')
  | other (k : String) {v : V} {v' : V'} (h : R v v') : Like R (.other k v) (.other k v')

inductive Producer.Like (R : V → V' → Prop) : Producer V → Producer V' → Prop
  | callable {f : V} {f' : V'} (h : R f f') : Like R (.callable f) (.callable f')
  | target {v : V} {v' : V'} (h : R v v') : Like R (.target v) (.target v')

inductive Exn.Like (R : V → V' → Prop) : Exn V → Exn V' → Prop
  | authoring (e : AuthoringError) : Like R (.authoring e) (.authoring e)
  | failure {m : V} {m' : V'} (h : R m m') : Like R (.failure m) (.failure m')
  | fault (t : String) {c : V} {c' : V'} (h : R c c') : Like R (.fault t c) (.fault t c')
  | exit (code : Nat) : Like R (.exit code) (.exit code)
  | thrown {v : V} {v' : V'} (h : R v v') : Like R (.thrown v) (.thrown v')

inductive Refusal.Like (R : V → V' → Prop) : Refusal V → Refusal V' → Prop
  | raised {e : Exn V} {e' : Exn V'} (h : e.Like R e') : Like R (.raised e) (.raised e')
  | unshowable {f : V} {f' : V'} (h : R f f') (q : Bool) : Like R (.unshowable f q) (.unshowable f' q)

inductive Source.Like (R : V → V' → Prop) : Source V → Source V' → Prop
  | value {v : V} {v' : V'} (h : R v v') : Like R (.value v) (.value v')
  | block {f : V} {f' : V'} (h : R f f') : Like R (.block f) (.block f')

inductive Evaluator.Like (R : V → V' → Prop) : Evaluator V → Evaluator V' → Prop
  | standard : Like R .standard .standard
  | custom {v : V} {v' : V'} (h : R v v') : Like R (.custom v) (.custom v')

inductive Event.Like (R : V → V' → Prop) : Event V → Event V' → Prop
  | notice (n : Notice) : Like R (.notice n) (.notice n)
  | wrote (stream : Stream) (t : String) : Like R (.wrote stream t) (.wrote stream t)
  | note {vs : List V} {vs' : List V'} (h : List.Forall₂ R vs vs') : Like R (.note vs) (.note vs')

/-! ## What holds numbers -/

/-- Which of the specification's own values, and which numbers of the two runs, correspond, and which places, told by
a level and a path, definitions may have that do. -/
structure Handles (U : Type) where
  user : U → U → Prop
  scope : Nat → Nat → Prop
  serial : Nat → Nat → Prop
  recorder : Nat → Nat → Prop
  builder : Nat → Nat → Prop
  place : Int × String → Int × String → Prop

inductive Definition.Like (H : Handles U) (R : V → V' → Prop) : Definition V → Definition V' → Prop
  | mk {n : HelperName V} {n' : HelperName V'} (hn : n.Like R n') {p : Producer V} {p' : Producer V'} (hp : p.Like R p')
    {l l' : Int} {t t' : String} (h : H.place (l, t) (l', t')) : Like H R ⟨n, l, p, t⟩ ⟨n', l', p', t'⟩

inductive OuterCall.Like (H : Handles U) (R : V → V' → Prop) : OuterCall V → OuterCall V' → Prop
  | mk {n n' i i' : Nat} (hn : H.serial n n') (hi : H.scope i i') {d : Definition V} {d' : Definition V'}
    (hd : d.Like H R d') {ds : List (Definition V)} {ds' : List (Definition V')}
    (hds : List.Forall₂ (Definition.Like H R) ds ds') : Like H R ⟨n, i, d, ds⟩ ⟨n', i', d', ds'⟩

inductive Criterion.Like (H : Handles U) (R : V → V' → Prop) : Criterion V → Criterion V' → Prop
  | equalTo {v : V} {v' : V'} (h : R v v') : Like H R (.equalTo v) (.equalTo v')
  | same {v : V} {v' : V'} (h : R v v') : Like H R (.same v) (.same v')
  | instanceOf {v : V} {v' : V'} (h : R v v') : Like H R (.instanceOf v) (.instanceOf v')
  | within {d c : V} {d' c' : V'} (hd : R d d') (hc : R c c') : Like H R (.within d c) (.within d' c')
  | includes {vs : List V} {vs' : List V'} (h : List.Forall₂ R vs vs') : Like H R (.includes vs) (.includes vs')
  | found (p : Pattern) : Like H R (.found p) (.found p)
  | satisfies {p l : V} {p' l' : V'} (hp : R p p') (hl : R l l') : Like H R (.satisfies p l) (.satisfies p' l')
  | raises {r r' : Nat} (hr : H.recorder r r') {e m : V} {e' m' : V'} (he : R e e') (hm : R m m') :
    Like H R (.raises r e m) (.raises r' e' m')
  | own : Like H R .own .own

inductive Matcher.Like (H : Handles U) (R : V → V' → Prop) : Matcher V → Matcher V' → Prop
  | mk {v : V} {v' : V'} (hv : R v v') {c : Criterion V} {c' : Criterion V'} (hc : c.Like H R c') :
    Like H R ⟨v, c⟩ ⟨v', c'⟩

inductive Target.Like (H : Handles U) (R : V → V' → Prop) : Target V → Target V' → Prop
  | mk {s : Source V} {s' : Source V'} (hs : s.Like R s') {e : Evaluator V} {e' : Evaluator V'} (he : e.Like R e')
    {o o' : Option Nat} (ho : Option.Rel H.scope o o') : Like H R ⟨s, e, o⟩ ⟨s', e', o'⟩

inductive Verdict.Like (H : Handles U) (R : V → V' → Prop) : Verdict V → Verdict V' → Prop
  | mk (valid : Bool) {a : V} {a' : V'} (ha : R a a') {f : Option V} {f' : Option V'} (hf : Option.Rel R f f')
    (negate : Bool) {m : Matcher V} {m' : Matcher V'} (hm : m.Like H R m') :
    Like H R ⟨valid, a, f, negate, m⟩ ⟨valid, a', f', negate, m'⟩

/-- The forms that two values can have which are alike, their parts being related by `R`. -/
inductive Value.Shape (H : Handles U) (R : Value U → Value U → Prop) : Value U → Value U → Prop
  | absent : Shape H R .absent .absent
  | flag (b : Bool) : Shape H R (.flag b) (.flag b)
  | text (s : String) : Shape H R (.text s) (.text s)
  | user {u u' : U} (h : H.user u u') : Shape H R (.user u) (.user u')
  | scope {i i' : Nat} (h : H.scope i i') : Shape H R (.scope i) (.scope i')
  | builder {g g' : Nat} (h : H.builder g g') : Shape H R (.builder g) (.builder g')
  | subjectOf {n n' i i' : Nat} (hn : H.serial n n') (hi : H.scope i i') : Shape H R (.subjectOf n i) (.subjectOf n' i')
  | outer {c c' : OuterCall (Value U)} (h : c.Like H R c') : Shape H R (.outer c) (.outer c')

/-- Two values are alike if their forms and all their parts are. -/
inductive Value.Like (H : Handles U) : Value U → Value U → Prop
  | of_shape {v v' : Value U} (h : v.Shape H (Value.Like H) v') : Like H v v'

/-! ## Names -/

namespace HelperName

variable {R : V → V' → Prop} {n m : HelperName V} {n' m' : HelperName V'}

theorem Like.text?_eq (h : n.Like R n') : n'.text? = n.text? := by cases h <;> rfl

theorem Like.key?_eq (h : n.Like R n') : n'.key? = n.key? := by cases h <;> rfl

/-- Alike names store and find alike. -/
theorem Like.same_eq (h : n.Like R n') (hm : m.Like R m') : n'.same m' = n.same m := by
  unfold same
  rw [h.text?_eq, h.key?_eq, hm.text?_eq, hm.key?_eq]

theorem Like.subject : (HelperName.subject : HelperName V).Like R HelperName.subject := .text _

end HelperName

theorem Definition.Like.producer {H : Handles U} {R : V → V' → Prop} {d : Definition V} {d' : Definition V'}
    (h : d.Like H R d') : d.producer.Like R d'.producer := by cases h; assumption

theorem OuterCall.Like.current {H : Handles U} {R : V → V' → Prop} {c : OuterCall V} {c' : OuterCall V'}
    (h : c.Like H R c') : c.current.Like H R c'.current := by cases h; assumption

theorem OuterCall.Like.scope {H : Handles U} {R : V → V' → Prop} {c : OuterCall V} {c' : OuterCall V'}
    (h : c.Like H R c') : H.scope c.scope c'.scope := by cases h; assumption

theorem Verdict.Like.fault {H : Handles U} {R : V → V' → Prop} {v : Verdict V} {v' : Verdict V'}
    (h : v.Like H R v') : Option.Rel R v.fault v'.fault := by cases h; assumption

theorem Verdict.Like.valid_eq {H : Handles U} {R : V → V' → Prop} {v : Verdict V} {v' : Verdict V'}
    (h : v.Like H R v') : v'.valid = v.valid := by cases h; rfl

/-! ## Kinships -/

/-- A relation of values that is closed under their forms, and beside it the relation of the examples that own
scopes. -/
structure Kinship (U : Type) extends Handles U where
  value : Value U → Value U → Prop
  value_iff {v v' : Value U} : value v v' ↔ v.Shape toHandles value v'
  place_refl (p : Int × String) : place p p
  owner : Example (Value U) → Example (Value U) → Prop
  description {x x' : Example (Value U)} : owner x x' → value x.description x'.description
  body {x x' : Example (Value U)} : owner x x' → Option.Rel value x.body x'.body
  pending {x x' : Example (Value U)} : owner x x' → x.body = none → value x.pendingMessage x'.pendingMessage

namespace Kinship

variable (K : Kinship U)

abbrev Name : HelperName (Value U) → HelperName (Value U) → Prop := HelperName.Like K.value

abbrev Definition : Exemplar.Definition (Value U) → Exemplar.Definition (Value U) → Prop :=
  Definition.Like K.toHandles K.value

abbrev Call : OuterCall (Value U) → OuterCall (Value U) → Prop := OuterCall.Like K.toHandles K.value

abbrev Exn : Exemplar.Exn (Value U) → Exemplar.Exn (Value U) → Prop := Exn.Like K.value

abbrev Refusal : Exemplar.Refusal (Value U) → Exemplar.Refusal (Value U) → Prop := Refusal.Like K.value

abbrev Matcher : Exemplar.Matcher (Value U) → Exemplar.Matcher (Value U) → Prop := Matcher.Like K.toHandles K.value

abbrev Verdict : Exemplar.Verdict (Value U) → Exemplar.Verdict (Value U) → Prop := Verdict.Like K.toHandles K.value

/-- The scopes of examples that are alike hold alike values, in the same order. -/
inductive Scope : Exemplar.Scope (Value U) → Exemplar.Scope (Value U) → Prop
  | mk {x x' : Example (Value U)} (hx : K.owner x x') {e e' : Evaluator (Value U)} (he : e.Like K.value e')
    {memo memo' : List (HelperName (Value U) × Value U)}
    (hm : List.Forall₂ (fun p p' => K.Name p.1 p'.1 ∧ K.value p.2 p'.2) memo memo')
    {resolving resolving' : List (HelperName (Value U))} (hr : List.Forall₂ K.Name resolving resolving')
    {successes successes' : List (Exemplar.Verdict (Value U))} (hs : List.Forall₂ K.Verdict successes successes') :
    Scope ⟨x, e, memo, resolving, successes⟩ ⟨x', e', memo', resolving', successes'⟩

variable {K}

theorem absent : K.value .absent .absent := K.value_iff.mpr .absent
theorem flag (b : Bool) : K.value (.flag b) (.flag b) := K.value_iff.mpr (.flag b)
theorem text (s : String) : K.value (.text s) (.text s) := K.value_iff.mpr (.text s)
theorem ofScope {i i' : Nat} (h : K.scope i i') : K.value (.scope i) (.scope i') := K.value_iff.mpr (.scope h)
theorem ofCall {c c' : OuterCall (Value U)} (h : K.Call c c') : K.value (.outer c) (.outer c') :=
  K.value_iff.mpr (.outer h)

theorem isAbsent_eq {v v' : Value U} (h : K.value v v') : v'.isAbsent = v.isAbsent := by
  cases K.value_iff.mp h <;> rfl

theorem toValue {n n' : HelperName (Value U)} (h : K.Name n n') : K.value n.toValue n'.toValue := by
  cases h with
  | text s => exact text s
  | textLike s h => exact h
  | other k h => exact h

theorem getD {o o' : Option (Value U)} {v v' : Value U} (h : Option.Rel K.value o o') (hv : K.value v v') :
    K.value (o.getD v) (o'.getD v') := by
  cases h with
  | some h => exact h
  | none => exact hv

namespace Scope

variable {s s' : Exemplar.Scope (Value U)} {n n' : HelperName (Value U)}

theorem owner (h : K.Scope s s') : K.owner s.owner s'.owner := by cases h; assumption

theorem successes (h : K.Scope s s') : List.Forall₂ K.Verdict s.successes s'.successes := by cases h; assumption

theorem fresh {x x' : Example (Value U)} (hx : K.owner x x') {e e' : Evaluator (Value U)} (he : e.Like K.value e') :
    K.Scope (.fresh x e) (.fresh x' e') := .mk hx he .nil .nil .nil

/-- Alike names find alike values. -/
theorem kept? (h : K.Scope s s') (hn : K.Name n n') : Option.Rel K.value (s.kept? n) (s'.kept? n') := by
  obtain ⟨-, -, hm, -, -⟩ := h
  unfold Exemplar.Scope.kept?
  induction hm with
  | nil => exact .none
  | @cons p p' r r' hp _ ih =>
    rw [List.find?_cons, List.find?_cons, hp.1.same_eq hn]
    cases p.1.same n with
    | true => exact .some hp.2
    | false => exact ih

/-- Alike names are found at the same place among those being computed. -/
theorem pathFrom? (h : K.Scope s s') (hn : K.Name n n') :
    Option.Rel (List.Forall₂ K.Name) (s.pathFrom? n) (s'.pathFrom? n') := by
  obtain ⟨-, -, -, hr, -⟩ := h
  unfold Exemplar.Scope.pathFrom?
  induction hr with
  | nil => exact .none
  | @cons m m' r r' hm hr ih =>
    rw [List.dropWhile_cons, List.dropWhile_cons, hm.same_eq hn]
    cases m.same n with
    | true => exact .some (.cons hm hr)
    | false => exact ih

theorem enter (h : K.Scope s s') (hn : K.Name n n') :
    K.Scope { s with resolving := s.resolving ++ [n] } { s' with resolving := s'.resolving ++ [n'] } := by
  obtain ⟨hx, he, hm, hr, hs⟩ := h
  exact ⟨hx, he, hm, List.rel_append hr (.cons hn .nil), hs⟩

theorem leave (h : K.Scope s s') :
    K.Scope { s with resolving := s.resolving.dropLast } { s' with resolving := s'.resolving.dropLast } := by
  obtain ⟨hx, he, hm, hr, hs⟩ := h
  refine ⟨hx, he, hm, ?_, hs⟩
  dsimp only
  rw [List.dropLast_eq_take, List.dropLast_eq_take, hr.length_eq]
  exact List.forall₂_take _ hr

theorem keep {v v' : Value U} (h : K.Scope s s') (hn : K.Name n n') (hv : K.value v v') :
    K.Scope { s with memo := s.memo ++ [(n, v)] } { s' with memo := s'.memo ++ [(n', v')] } := by
  obtain ⟨hx, he, hm, hr, hs⟩ := h
  exact ⟨hx, he, List.rel_append hm (.cons ⟨hn, hv⟩ .nil), hr, hs⟩

theorem succeed {v v' : Exemplar.Verdict (Value U)} (h : K.Scope s s') (hv : K.Verdict v v') :
    K.Scope { s with successes := s.successes ++ [v] } { s' with successes := s'.successes ++ [v'] } := by
  obtain ⟨hx, he, hm, hr, hs⟩ := h
  exact ⟨hx, he, hm, hr, List.rel_append hs (.cons hv .nil)⟩

end Scope

/-! ## Chains of groups -/

variable (K) in
/-- Two groups that describe themselves alike and have alike definitions of alike names. -/
structure Level (f f' : Forest (Value U)) (a a' : Nat) : Prop where
  description : Option.Rel K.value ((f.group? a).map (·.description)) ((f'.group? a').map (·.description))
  helpers {n n' : HelperName (Value U)} : K.Name n n' →
    Option.Rel K.Definition ((f.helpers a).find? n) ((f'.helpers a').find? n')

variable (K) in
/-- Two groups that stand below the same: level by level the groups above them are alike, and so are their roots and
the targets that these describe. -/
structure Chain (f : Forest (Value U)) (g : Nat) (f' : Forest (Value U)) (g' : Nat) : Prop where
  levels : List.Forall₂ (K.Level f f') (f.ancestors g) (f'.ancestors g')
  root : List.Forall₂ (K.Level f f') (f.ancestors (f.root g)) (f'.ancestors (f'.root g'))
  target : Option.Rel K.value (f.target? g) (f'.target? g')

theorem Chain.declaredChain {f f' : Forest (Value U)} {g g' : Nat} (h : K.Chain f g f' g')
    {n n' : HelperName (Value U)} (hn : K.Name n n') :
    List.Forall₂ K.Definition (f.declaredChain g n) (f'.declaredChain g' n') :=
  List.rel_filterMap (fun _ _ hl => hl.helpers hn) h.levels

end Kinship

/-! ## Equality -/

/-- A relation that holds of equal things alone, and of all of them. -/
theorem eq_of_iff {α : Type} {R : α → α → Prop} (h : ∀ a b, R a b → a = b) (hr : ∀ a, R a a) : R = Eq := by
  funext a b
  exact propext ⟨h a b, fun he => he ▸ hr a⟩

@[simp] theorem rel_eq {α : Type} : Option.Rel (@Eq α) = Eq :=
  eq_of_iff (by rintro _ _ (rfl | _) <;> rfl) (by rintro (_ | a) <;> constructor; rfl)

@[simp] theorem HelperName.like_eq : HelperName.Like (@Eq V) = Eq :=
  eq_of_iff (by rintro _ _ (_ | ⟨_, rfl⟩ | ⟨_, rfl⟩) <;> rfl) (by rintro (_ | _ | _) <;> constructor <;> rfl)

@[simp] theorem Producer.like_eq : Producer.Like (@Eq V) = Eq :=
  eq_of_iff (by rintro _ _ (rfl | rfl) <;> rfl) (by rintro (_ | _) <;> constructor <;> rfl)

@[simp] theorem Exn.like_eq : Exn.Like (@Eq V) = Eq :=
  eq_of_iff (by rintro _ _ (_ | rfl | ⟨_, rfl⟩ | _ | rfl) <;> rfl)
    (by rintro (_ | _ | _ | _ | _) <;> constructor <;> rfl)

@[simp] theorem Refusal.like_eq : Refusal.Like (@Eq V) = Eq :=
  eq_of_iff (by rintro _ _ (h | ⟨h, _⟩) <;> simp_all) (by rintro (_ | _) <;> constructor <;> simp)

@[simp] theorem Source.like_eq : Source.Like (@Eq V) = Eq :=
  eq_of_iff (by rintro _ _ (rfl | rfl) <;> rfl) (by rintro (_ | _) <;> constructor <;> rfl)

@[simp] theorem Evaluator.like_eq : Evaluator.Like (@Eq V) = Eq :=
  eq_of_iff (by rintro _ _ (_ | rfl) <;> rfl) (by rintro (_ | _) <;> constructor; rfl)

@[simp] theorem Event.like_eq : Event.Like (@Eq V) = Eq :=
  eq_of_iff (by rintro _ _ (_ | _ | h) <;> simp_all) (by rintro (_ | _ | _) <;> constructor; simp)

/-- Equal values and equal numbers correspond. -/
def Handles.same : Handles U := ⟨Eq, Eq, Eq, Eq, Eq, Eq⟩

@[simp] theorem Definition.like_eq : Definition.Like (Handles.same (U := U)) (@Eq V) = Eq :=
  eq_of_iff (by rintro _ _ ⟨hn, hp, ⟨⟩⟩; simp_all) fun d => .mk (by simp) (by simp) rfl

@[simp] theorem OuterCall.like_eq : OuterCall.Like (Handles.same (U := U)) (@Eq V) = Eq :=
  eq_of_iff (by rintro _ _ ⟨rfl, rfl, hd, hds⟩; simp_all) fun c => .mk rfl rfl (by simp) (by simp)

@[simp] theorem Criterion.like_eq : Criterion.Like (Handles.same (U := U)) (@Eq V) = Eq :=
  eq_of_iff
    (by rintro _ _ (rfl | rfl | rfl | ⟨rfl, rfl⟩ | h | _ | ⟨rfl, rfl⟩ | ⟨⟨⟩, rfl, rfl⟩ | _) <;> simp_all)
    (by rintro (_ | _ | _ | _ | _ | _ | _ | _ | _) <;> constructor <;> first | rfl | simp)

@[simp] theorem Matcher.like_eq : Matcher.Like (Handles.same (U := U)) (@Eq V) = Eq :=
  eq_of_iff (by rintro _ _ ⟨rfl, hc⟩; simp_all) fun m => .mk rfl (by simp)

@[simp] theorem Target.like_eq : Target.Like (Handles.same (U := U)) (@Eq V) = Eq :=
  eq_of_iff (by rintro _ _ ⟨hs, he, ho⟩; simp_all [Handles.same])
    fun t => .mk (by simp) (by simp) (by simp [Handles.same])

@[simp] theorem Verdict.like_eq : Verdict.Like (Handles.same (U := U)) (@Eq V) = Eq :=
  eq_of_iff (by rintro _ _ ⟨_, rfl, hf, _, hm⟩; simp_all) fun v => .mk _ rfl (by simp) _ (by simp)

theorem Value.shape_eq : Value.Shape Handles.same (@Eq (Value U)) = Eq :=
  eq_of_iff
    (by rintro _ _ (_ | _ | _ | ⟨⟨⟩⟩ | ⟨⟨⟩⟩ | ⟨⟨⟩⟩ | ⟨⟨⟩, ⟨⟩⟩ | h) <;> simp_all)
    (by rintro (_ | _ | _ | _ | _ | _ | _ | _) <;> constructor <;> first | rfl | simp)

namespace Kinship

/-- The kinship of equality. -/
def same : Kinship U where
  toHandles := .same
  value := Eq
  value_iff := by rw [Value.shape_eq]
  place_refl _ := rfl
  owner := Eq
  description := congrArg _
  body h := by rw [h, rel_eq]
  pending h _ := congrArg _ h

theorem same_name : (same (U := U)).Name = Eq := HelperName.like_eq
theorem same_definition : (same (U := U)).Definition = Eq := Definition.like_eq
theorem same_call : (same (U := U)).Call = Eq := OuterCall.like_eq
theorem same_exn : (same (U := U)).Exn = Eq := Exn.like_eq
theorem same_refusal : (same (U := U)).Refusal = Eq := Refusal.like_eq
theorem same_matcher : (same (U := U)).Matcher = Eq := Matcher.like_eq
theorem same_verdict : (same (U := U)).Verdict = Eq := Verdict.like_eq

theorem same_scope : (same (U := U)).Scope = Eq := by
  refine eq_of_iff ?_ fun s => .mk rfl ?_ ?_ ?_ ?_
  · rintro _ _ ⟨rfl, he, hm, hr, hs⟩
    have hpair : (fun p p' : HelperName (Value U) × Value U => same.Name p.1 p'.1 ∧ same.value p.2 p'.2) = Eq := by
      refine eq_of_iff ?_ ?_ <;> simp [same, Name, Prod.ext_iff]
    rw [hpair] at hm
    simp_all [same, Name, Verdict]
  all_goals simp [same, Name, Verdict, List.forall₂_same]

/-! Everything is like itself. -/

theorem Name.refl (n : HelperName (Value U)) : (same (U := U)).Name n n := same_name ▸ rfl
theorem Call.refl (c : OuterCall (Value U)) : (same (U := U)).Call c c := same_call ▸ rfl
theorem Exn.refl (err : Exemplar.Exn (Value U)) : (same (U := U)).Exn err err := same_exn ▸ rfl
theorem Matcher.refl (m : Exemplar.Matcher (Value U)) : (same (U := U)).Matcher m m := same_matcher ▸ rfl
theorem Verdict.refl (v : Exemplar.Verdict (Value U)) : (same (U := U)).Verdict v v := same_verdict ▸ rfl
theorem Scope.refl (s : Exemplar.Scope (Value U)) : (same (U := U)).Scope s s := same_scope ▸ rfl

theorem Level.refl (f : Forest (Value U)) (a : Nat) : same.Level f f a a where
  description := by rw [show (same (U := U)).value = Eq from rfl, rel_eq]
  helpers {n n'} hn := by
    obtain rfl : n = n' := same_name ▸ hn
    rw [same_definition, rel_eq]

/-- Every chain of groups is like itself. -/
theorem Chain.refl (f : Forest (Value U)) (g : Nat) : same.Chain f g f g where
  levels := List.forall₂_same.mpr fun a _ => .refl f a
  root := List.forall₂_same.mpr fun a _ => .refl f a
  target := by rw [show (same (U := U)).value = Eq from rfl, rel_eq]

end Kinship
end Exemplar

import Exemplar.Proofs.Frame
import Exemplar.Proofs.Reference
import Mathlib.Data.List.Dedup

/-!
# Exemplar.Proofs.Plans — definitions whose code follows a plan

An example stands at its scope in a tree. The definitions above it have code without effects: all it does is read
helpers on that scope, call the definition outward, compute, and return or raise. Such code follows a plan, and the
plans of all definitions make up the book that the naive evaluator goes by.

* `Site`: the example at its scope, and the words for the errors there.
* `Site.book`: the plans of all definitions, with the errors in those words.
* `Site.Follows`, `Site.Carries`: the code of one definition, and of all, follows its plan.
-/

namespace Exemplar

variable {U S α : Type}

/-! ## Sites -/

/-- The definitions of a name for the examples of a group, innermost first, given the full text of the root. -/
def Forest.definitions (f : Forest (Value U)) (group : Nat) (root : String) (name : String) :
    List (Definition (Value U)) :=
  (f.declaredChain group (.text name)).reverse ++
    if name = subjectName then ((f.target? group).map fun v => ⟨.subject, targetLevel, .target v, root⟩).toList else []

/-- An example at its scope, in a forest and a state that nothing changes. Everything that an error tells of its place
can be put into words there, without any effect. -/
structure Site (h : Host U S) where
  forest : Forest (Value U)
  outside : S
  owner : Example (Value U)
  /-- The number of the example's scope. -/
  id : Nat
  path : String
  rootPath : String
  description : Option String
  word : HelperName (Value U) → String
  path_eq : h.toSurface.fullText forest owner.group outside = (.done path, outside)
  root_eq : h.toSurface.fullText forest (forest.root owner.group) outside = (.done rootPath, outside)
  description_eq : h.toSurface.mention owner.description outside = (.done description, outside)
  word_eq (name : String) (d : Definition (Value U)) : d ∈ forest.definitions owner.group rootPath name →
    h.toSurface.textOf d.name.toValue outside = (.done (word d.name), outside)

namespace Site

variable {h : Host U S} (site : Site h)

/-- The definitions of a name, innermost first. -/
def definitions (name : String) : List (Definition (Value U)) :=
  site.forest.definitions site.owner.group site.rootPath name

theorem definitionsFor_eq (name : String) :
    h.toSurface.definitionsFor site.forest site.owner.group (.text name) site.outside =
      (.done (site.definitions name).reverse, site.outside) := by
  unfold Surface.definitionsFor definitions Forest.definitions
  by_cases hn : name = subjectName
  · subst hn
    have hs : (HelperName.text subjectName : HelperName (Value U)).same .subject = true := HelperName.same_refl _
    simp only [hs, if_true]
    cases site.forest.target? site.owner.group with
    | some v =>
      simp only [Option.map_some, Option.toList_some, List.reverse_append, List.reverse_reverse, List.reverse_singleton]
      exact Action.bind_done site.root_eq
    | none => simp [Action.pure_apply]
  · have hs : (HelperName.text name : HelperName (Value U)).same .subject = false :=
      (HelperName.same_text_eq name subjectName).trans (decide_eq_false hn)
    simp [hs, hn, Action.pure_apply]

theorem mem_names {name : String} (hd : site.definitions name ≠ []) :
    name ∈ (site.forest.namesFor site.owner.group).filterMap HelperName.text? := by
  have hdef : site.forest.Defines site.owner.group (.text name) :=
    h.toSurface.defines_of_definitionsFor (site.definitionsFor_eq name) (by simpa using hd)
  obtain ⟨n, hn, hslot⟩ := List.mem_map.mp (Forest.defines_iff.mp hdef)
  refine List.mem_filterMap.mpr ⟨n, hn, ?_⟩
  exact (Prod.ext_iff.mp hslot).1

/-! ## Errors -/

/-- A mistake that surfaces while the name with that text is computed. -/
def error (cause : AuthoringCause) (name : Value U) (text : String) : Exn (Value U) :=
  .authoring ⟨cause, some ⟨some site.path, if h.toSurface.holds name site.outside then some text else none,
    site.description, none, none⟩⟩

theorem raiseIn_eq {s : Scope (Value U)} (hs : s.owner = site.owner) {name : Value U} {text : String}
    (hn : h.toSurface.textOf name site.outside = (.done text, site.outside)) {cause : Step U S AuthoringCause}
    {c : AuthoringCause} (hc : cause site.outside = (.done c, site.outside)) :
    (h.toSurface.raiseIn site.forest s name cause : Step U S α) site.outside =
      (.raised (.raised (site.error c name text)), site.outside) := by
  have hm : h.toSurface.mention name site.outside =
      (.done (if h.toSurface.holds name site.outside then some text else none), site.outside) := by
    rw [Surface.mention, Action.get_bind_apply]
    split
    · exact Action.bind_done hn
    · rfl
  rw [Surface.raiseIn, hs, Action.bind_done site.path_eq, Action.bind_done hc, Action.bind_done hm,
    Action.bind_done site.description_eq]
  rfl

theorem step_raiseIn (n : Nat) {w : World U S} (hf : w.forest = site.forest) (hw : w.outside = site.outside)
    {s : Scope (Value U)} (hs : s.owner = site.owner) {name : Value U} {text : String}
    (hn : h.toSurface.textOf name site.outside = (.done text, site.outside)) {cause : Step U S AuthoringCause}
    {c : AuthoringCause} (hc : cause site.outside = (.done c, site.outside)) :
    ((h.engine n).step (h.toSurface.raiseIn w.forest s name cause) : Run U S α) w =
      (.raised (site.error c name text), w) := by
  refine ((h.engine n).step_of_raised (s := w.outside) ?_).trans rfl
  rw [hf, hw]
  exact site.raiseIn_eq hs hn hc

/-- The plans of all definitions of the site. -/
def book (plan : Definition (Value U) → Plan (Exn (Value U)) (Value U)) : Book (Exn (Value U)) (Value U) where
  names := ((site.forest.namesFor site.owner.group).filterMap HelperName.text?).dedup
  chain name := (site.definitions name).map plan
  circular cycle name := site.error (.circularHelper cycle) (.text name) name
  undefined name :=
    site.error (if name = subjectName then .undefinedTarget else .undefinedHelper name) (.text name) name
  noOuter name :=
    let outermost := ((site.definitions name).getLast?.map (·.name)).getD (.text name)
    site.error (.overrideWithoutAncestor (site.word outermost)) outermost.toValue (site.word outermost)
  mem_names name hc := List.mem_dedup.mpr (site.mem_names (by simpa using hc))

/-! ## Code that follows a plan -/

/-- The world is that of the site; its scope may have come to any state. -/
structure Holds (w : World U S) : Prop where
  forest : w.forest = site.forest
  outside : w.outside = site.outside
  owner : ∃ s, w.scope? site.id = some s ∧ s.owner = site.owner

/-- A program follows a plan up to what is left of it, of which `Q` holds, with the program's result. It may compute
whatever is the same at all times, look up helpers on the scope, and call the definition outward, if it was given it by
the definition under way (`c`). It catches no error. Calls of the specification's own functions are at most `n` deep. -/
inductive Follows (c : OuterCall (Value U)) :
    Nat → {α : Type} → Program U S α → Plan (Exn (Value U)) (Value U) →
      (α → Plan (Exn (Value U)) (Value U) → Prop) → Prop
  | pure {n : Nat} {α : Type} {a : α} {P Q} : Q a P → Follows c n (.pure a) P Q
  | bind {n : Nat} {α β : Type} {p : Program U S β} {k : β → Program U S α} {P Q R} :
      Follows c n p P R → (∀ b P', R b P' → Follows c n (k b) P' Q) → Follows c n (p.bind k) P Q
  | raise {n : Nat} {α : Type} {err : Exn (Value U)} {Q} : Follows c n (α := α) (.raise err) (.fail err) Q
  | computed {n : Nat} {α : Type} {r : Request U S α} {a : α} {P Q} :
      (∀ (run : {γ : Type} → Program U S γ → Run U S γ) w, site.Holds w →
        Engine.perform ⟨h, run⟩ r w = (.done a, w)) → Q a P → Follows c n (.ask r) P Q
  | refused {n : Nat} {α : Type} {r : Request U S α} {err : Exn (Value U)} {Q} :
      (∀ (run : {γ : Type} → Program U S γ → Run U S γ) w, site.Holds w →
        Engine.perform ⟨h, run⟩ r w = (.raised err, w)) → Follows c n (.ask r) (.fail err) Q
  | lookup {n : Nat} {name : String} {next Q} : (∀ v, Q v (next v)) →
      Follows c n (.ask (.lookup site.id (.text name))) (.read name next) Q
  | access {n : Nat} {name : String} {next Q} : Member.named? name = none → isPrivate name = false →
      (∀ v, Q (.value v) (next v)) → Follows c n (.ask (.access site.id name)) (.read name next) Q
  | subject {n serial : Nat} {next Q} : (∀ v, Q v (next v)) →
      Follows c n (.ask (.call (.subjectOf serial site.id) [])) (.read subjectName next) Q
  | outward {n : Nat} {next Q} : (∀ v, Q v (next v)) → Follows c n (.ask (.call (.outer c) [])) (.outward next) Q
  | called {n : Nat} {u : U} {args : List (Value U)} {P Q} :
      Follows c n (h.call u args) P Q → Follows c (n + 1) (.ask (.call (.user u) args)) P Q

end Site

/-- The program that a call runs. -/
def Host.code (h : Host U S) (f : Value U) (args : List (Value U)) : Program U S (Value U) :=
  match f with
  | .user u => h.call u args
  | f => .ask (.call f args)

/-- The program that produces the value of the definition at hand. -/
def Host.producing (h : Host U S) (c : OuterCall (Value U)) (s : S) : Program U S (Value U) :=
  match c.current.producer with
  | .callable f => h.code f (h.toSurface.argumentsFor f [.scope c.scope, .outer c] s)
  | .target described => if h.toSurface.isConstructible described s then h.code described [] else .pure described

namespace Site

variable {h : Host U S} (site : Site h)

/-- The value is what is left of the plan. -/
def Returns (v : Value U) (P : Plan (Exn (Value U)) (Value U)) : Prop := P = .done v

/-- Each definition of the site follows its plan, with calls at most `calls` deep, whatever number the function outward
has this time. -/
def Carries (plan : Definition (Value U) → Plan (Exn (Value U)) (Value U)) (calls : Nat) : Prop :=
  ∀ name d rest, d :: rest <:+ site.definitions name → ∀ serial,
    site.Follows ⟨serial, site.id, d, rest⟩ calls (h.producing ⟨serial, site.id, d, rest⟩ site.outside) (plan d) Returns

end Site
end Exemplar

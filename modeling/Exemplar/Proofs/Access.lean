import Exemplar.Proofs.Refusal
import Exemplar.Proofs.Targets

/-!
# Exemplar.Proofs.Access — names on a scope

What a scope offers besides its helpers is told by the names of its members and by the names that are private. No name
under which a helper can be declared is any of these, so on a scope such a name leads to the helper, in whatever form
it is asked for.

* `Member.name_ne_of_accepted`: a name that a helper may have is that of no member.
* `Engine.access_of_accepted`: such a name as an attribute is the helper of that name.
* `Engine.access_name`: the name of a member is always the member.
* `Engine.defines_of_declared`: a helper that has been declared is found from its group and from all groups below it.
* `Script.access_forms_agree`: all of it, and the three forms of expressions by which a helper is reached.
-/

namespace Exemplar

/-! ## Which names are taken -/

theorem Member.named?_name (m : Member) : Member.named? m.name = some m := by
  cases m <;> rfl

theorem Member.name_ne_of_accepted {name : String} (h : NameFault.of? name = none) (m : Member) : m.name ≠ name := by
  obtain ⟨-, -, -, hnamed⟩ := NameFault.of?_eq_none h
  rintro rfl
  rw [m.named?_name] at hnamed
  cases hnamed

/-- A group is on the way from its root to itself. -/
theorem Forest.mem_ancestors_self {V : Type} (f : Forest V) (id : Nat) : id ∈ f.ancestors id := by
  unfold ancestors path
  split <;> simp

/-! ## Attributes -/

namespace Engine

variable {U S : Type} (e : Engine U S)

theorem access_of_accepted {name : String} (h : NameFault.of? name = none) (id : Nat) :
    e.access id name = Access.value <$> e.lookup id (.text name) := by
  obtain ⟨-, -, hprivate, hnamed⟩ := NameFault.of?_eq_none h
  unfold access
  rw [hnamed, hprivate]
  rfl

/-- Whatever is declared, the name of a member leads to the member. -/
theorem access_name (m : Member) (id : Nat) :
    e.access id m.name =
      if m = .describedTarget then Access.value <$> e.describedTarget id else pure (.member m) := by
  unfold access
  rw [m.named?_name]
  cases m <;> rfl

/-- The definition that a declaration has stored is in the table of the group. -/
theorem define_done {g : Nat} {name producer : Value U} {d : Definition (Value U)} {w w' : World U S}
    (h : e.define g name producer w = (.done d, w')) :
    w'.forest = w.forest.define g d ∧ w.forest.isSealed g = false ∧
      ∃ s s', e.surface.helperName name s = (.done d.name, s') := by
  rw [define] at h
  obtain ⟨⟨⟩, w₁, hopen, hrest⟩ := Action.bind_done_iff.mp h
  obtain ⟨ho, rfl⟩ := e.ensureOpen_done hopen
  rw [Action.get_bind_apply] at hrest
  obtain ⟨path, w₂, hpath, hrest⟩ := Action.bind_done_iff.mp hrest
  obtain ⟨s, -, rfl⟩ := e.step_done hpath
  obtain ⟨n, w₃, hname, hrest⟩ := Action.bind_done_iff.mp hrest
  obtain ⟨s', hn, rfl⟩ := e.step_done hname
  cases hrest
  exact ⟨rfl, ho, s, s', hn⟩

/-- Once a helper has been declared in a group, its name has a definition there and in all groups below it, however the
forest grows from then on. -/
theorem defines_of_declared {name : String} (h : NameFault.of? name = none) {g : Nat} {producer : Value U}
    (hp : producer.isAbsent = false) {w w' : World U S}
    (hd : e.declare g (.helper (.text name) producer) w = (.done (), w')) {f : Forest (Value U)}
    (hf : w'.forest.Grows f) {g' : Nat} (hg : g ∈ f.ancestors g') : f.Defines g' (.text name) := by
  have hcheck : e.step (e.surface.checkName (.text name)) w = (.done (), w) :=
    e.step_of_done (e.surface.checkName_of_none rfl h)
  rw [declare, Action.bind_done hcheck, if_neg (by simp [hp])] at hd
  obtain ⟨d, w₁, hdefine, htold⟩ := Action.bind_done_iff.mp hd
  obtain ⟨hforest, ho, s, s', hname⟩ := e.define_done hdefine
  have hn : HelperName.text name = d.name := Ending.done.inj (congrArg Prod.fst hname)
  have hkept : w'.forest = w₁.forest := by
    rw [Action.get_bind_apply] at htold
    obtain ⟨t, rfl | ⟨m, rfl⟩⟩ := e.notice_done htold <;> rfl
  obtain ⟨gr, hgr, -⟩ := Forest.exists_of_isSealed ho
  have htable : w'.forest.helpers g = gr.helpers.put d := by
    rw [hkept, hforest]
    simp [Forest.helpers, Forest.define, Forest.group?_update, hgr]
  have hstored : d.name.slot ∈ (w'.forest.helpers g).names.map HelperName.slot := by
    rw [← HelperTable.find?_isSome_iff, htable, HelperTable.find?_put]
    rfl
  have hlater := ((hf.names_prefix g).map HelperName.slot).subset hstored
  rw [Forest.defines_iff, Forest.namesFor, List.map_append, List.mem_append, List.map_flatMap, List.mem_flatMap]
  exact Or.inl ⟨g, hg, hn ▸ hlater⟩

end Engine

/-! ## Expressions -/

namespace Script

variable (t : ClassTable)

theorem privatePart?_eq_none {name : String} (h : isPrivate name = false) (i : Nat) : privatePart? t i name = none := by
  unfold privatePart?
  split
  all_goals first | rfl | exact absurd h (by decide)

/-- What an expression has for a value in a frame, with `n` levels to go for the calls that it makes. -/
def valueIn (n : Nat) (f : Frame) (a : Expr) : Run Atom Store V := (host t).exec (n + 1) (eval t a f)

variable {t} {n i : Nat} {f : Frame} {name : String}

/-- A member of a scope that is called as a helper may be is the helper. -/
theorem exec_member (h : NameFault.of? name = none) :
    (host t).exec (n + 1) (member t (.scope i) name) = ((host t).engine n).lookup i (.text name) := by
  have hpublic : privatePart? t i name = none := by
    obtain ⟨-, -, hprivate, -⟩ := NameFault.of?_eq_none h
    exact privatePart?_eq_none t hprivate i
  have hother : name ≠ Member.describedTarget.name := (Member.name_ne_of_accepted h .describedTarget).symm
  have hread : (host t).exec (n + 1) (scopeMember t i name) = ((host t).engine n).lookup i (.text name) := by
    have hanswer (v : V) : (host t).exec (n + 1) (pure v) = pure v := rfl
    unfold scopeMember
    rw [if_neg hother]
    show (((host t).engine n).access i name >>= fun found => (host t).exec (n + 1) (match found with
      | .value w => pure w
      | .member m => ownMember i m)) = _
    rw [((host t).engine n).access_of_accepted h, bind_map_left]
    simp only [hanswer, bind_pure]
  funext w
  have hstore : (host t).exec (n + 1) store w = (.done w.outside, w) := Engine.step_of_done _ rfl
  show ((host t).exec (n + 1) store >>= fun _ =>
    (host t).exec (n + 1) ((privatePart? t i name).getD (scopeMember t i name))) w = _
  rw [Action.bind_done hstore, hpublic]
  exact congrFun hread w

/-- An item of a scope is the helper. -/
theorem exec_item (i : Nat) (v : V) :
    (host t).exec (n + 1) (item t (.scope i) v) = ((host t).engine n).lookup i v := by
  funext w
  have hstore : (host t).exec (n + 1) store w = (.done w.outside, w) := Engine.step_of_done _ rfl
  show ((host t).exec (n + 1) store >>= fun _ => ((host t).engine n).lookup i v) w = _
  rw [Action.bind_done hstore]

theorem exec_text (name : String) : (host t).exec (n + 1) (eval t (.text name) f) = pure (.text name) := by
  unfold eval
  rfl

/-- The value of a helper, which is kept as the value of any expression is. -/
def helperValue (t : ClassTable) (n i : Nat) (name : String) : Run Atom Store V := do
  let v ← ((host t).engine n).lookup i (.text name)
  (host t).exec (n + 1) (kept v)

theorem valueIn_get (h : NameFault.of? name = none) (hf : f.scope = some (.scope i)) :
    valueIn t n f (.get name) = helperValue t n i name := by
  unfold valueIn eval
  show ((host t).exec (n + 1) (wanted "scope" f.scope) >>= fun v => (host t).exec (n + 1) (member t v name)) >>=
    (fun v => (host t).exec (n + 1) (kept v)) = _
  rw [hf]
  show (host t).exec (n + 1) (member t (.scope i) name) >>= _ = _
  rw [exec_member h]
  rfl

theorem valueIn_item (hf : f.scope = some (.scope i)) :
    valueIn t n f (.item (.text name)) = helperValue t n i name := by
  unfold valueIn eval
  show ((host t).exec (n + 1) (wanted "scope" f.scope) >>= fun v =>
    (host t).exec (n + 1) (eval t (.text name) f) >>= fun a => (host t).exec (n + 1) (item t v a)) >>=
      (fun v => (host t).exec (n + 1) (kept v)) = _
  rw [hf, exec_text]
  show (host t).exec (n + 1) (item t (.scope i) (.text name)) >>= _ = _
  rw [exec_item]
  rfl

theorem valueIn_resolve (hf : f.scope = some (.scope i)) :
    valueIn t n f (.resolve (.text name)) = helperValue t n i name := by
  unfold valueIn eval
  show ((host t).exec (n + 1) (scopeFor t f "resolve") >>= fun k =>
    (host t).exec (n + 1) (eval t (.text name) f) >>= fun a => (host t).exec (n + 1) (lookup k a)) >>=
      (fun v => (host t).exec (n + 1) (kept v)) = _
  have hscope : (host t).exec (n + 1) (scopeFor t f "resolve") = pure i := by
    unfold scopeFor
    rw [hf]
    rfl
  rw [hscope, exec_text]
  rfl

/-- A name under which a helper can be declared is that of no member of a scope, and is not private. As an attribute it
does in every state what the lookup of the helper does, and in expressions so do all three forms. An attribute is meant
by this very text, which source code need not hand on as it is written: where identifiers are brought into a normal form
first, it is the normal form that is asked for. A helper that was declared under the name is found from its group and
from those below it, however much is declared afterwards; the members stay what they are, and no helper can be declared
under their names. -/
theorem access_forms_agree {name : String} (h : NameFault.of? name = none) :
    (isPrivate name = false ∧ ∀ m : Member, m.name ≠ name) ∧
    (∀ {U S : Type} (e : Engine U S) (id : Nat) (w : World U S),
      e.access id name w = (Access.value <$> e.lookup id (.text name)) w) ∧
    (∀ (t : ClassTable) (n i : Nat) (f : Frame) (w : World Atom Store), f.scope = some (.scope i) →
      valueIn t n f (.get name) w = valueIn t n f (.item (.text name)) w ∧
      valueIn t n f (.resolve (.text name)) w = valueIn t n f (.item (.text name)) w) ∧
    (∀ {U S : Type} (e : Engine U S) (g : Nat) (producer : Value U) (w w' : World U S), producer.isAbsent = false →
      e.declare g (.helper (.text name) producer) w = (.done (), w') →
      ∀ f, w'.forest.Grows f → ∀ g', g ∈ f.ancestors g' → f.Defines g' (.text name)) ∧
    ∀ {U S : Type} (e : Engine U S) (m : Member), NameFault.of? m.name ≠ none ∧ ∀ id w,
      e.access id m.name w =
        (if m = .describedTarget then Access.value <$> e.describedTarget id else pure (.member m)) w := by
  obtain ⟨-, -, hprivate, -⟩ := NameFault.of?_eq_none h
  refine ⟨⟨hprivate, Member.name_ne_of_accepted h⟩, ?_, ?_, ?_, ?_⟩
  · intro U S e id w
    rw [e.access_of_accepted h]
  · intro t n i f w hf
    rw [valueIn_get h hf, valueIn_item hf, valueIn_resolve hf]
    exact ⟨rfl, rfl⟩
  · intro U S e g producer w w' hp hd f hgrows g' hg
    exact e.defines_of_declared h hp hd hgrows hg
  · intro U S e m
    refine ⟨fun hm => Member.name_ne_of_accepted hm m rfl, fun id w => ?_⟩
    rw [e.access_name]

/-- A world in which a helper of the one scope has its value. -/
def keptWorld : World Atom Store :=
  ((World.initial .empty false).opened ⟨.absent, 0, 0, none, .absent⟩ .standard).keep 0 (.text "late") (.text "done")

/-- The value that is kept, as an attribute, as an item and by its name; and a helper of that name that is found once
it has been declared. -/
theorem access_forms_agree_kept :
    let f : Frame := ⟨some (.scope 0), none, none, none⟩
    let root := ((Host.nested.engine 1).addRoot .absent (.initial () false)).2
    ((host knownClasses).engine 0).access 0 "late" keptWorld = (.done (.value (.text "done")), keptWorld) ∧
    valueIn knownClasses 0 f (.get "late") keptWorld = (.done (.text "done"), keptWorld) ∧
    valueIn knownClasses 0 f (.resolve (.text "late")) keptWorld = (.done (.text "done"), keptWorld) ∧
    ((Host.nested.engine 1).declare 0 (.helper (.text "late") (.user 7)) root).2.forest.Defines 0 (.text "late") := by
  intro f root
  have haccepted : NameFault.of? "late" = none := by decide +kernel
  obtain ⟨-, haccess, hforms, hdeclared, -⟩ := access_forms_agree haccepted
  have hlookup :
      ((host knownClasses).engine 0).lookup 0 (.text "late") keptWorld = (.done (.text "done"), keptWorld) := by
    rw [Engine.lookup_text]
    exact Engine.lookupName_of_kept? _ rfl rfl
  have hitem : valueIn knownClasses 0 f (.item (.text "late")) keptWorld = (.done (.text "done"), keptWorld) := by
    rw [valueIn_item rfl]
    exact Action.bind_done hlookup
  obtain ⟨hget, hresolve⟩ := hforms knownClasses 0 0 f keptWorld rfl
  have hattribute := haccess ((host knownClasses).engine 0) 0 keptWorld
  refine ⟨?_, hget.trans hitem, hresolve.trans hitem, ?_⟩
  · rw [hattribute, map_eq_pure_bind]
    exact Action.bind_done hlookup
  · obtain ⟨w', hd⟩ : ∃ w', (Host.nested.engine 1).declare 0 (.helper (.text "late") (.user 7)) root =
        (.done (), w') := by
      have hcheck : (Host.nested.engine 1).surface.checkName (.text "late") root.outside = (.done (), root.outside) :=
        Surface.checkName_of_none _ rfl haccepted
      rw [Engine.declare, Action.bind_done ((Host.nested.engine 1).step_of_done hcheck)]
      exact ⟨_, rfl⟩
    have hfound := hdeclared (Host.nested.engine 1) 0 (.user 7) root w' rfl hd w'.forest (.refl _) 0
    rw [hd]
    exact hfound (w'.forest.mem_ancestors_self 0)

end Script
end Exemplar

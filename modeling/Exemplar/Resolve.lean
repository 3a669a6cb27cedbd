import Exemplar.Engine

/-!
# Exemplar.Resolve — the values of helpers

A helper's value is computed at most once per scope. Its definitions form a chain along the groups above the
example; the innermost one runs, and it may call the next one outward. While a name is being computed, asking for it
again is an authoring error that tells the cycle.

* `lookupName_of_kept?`: a name that has a value is answered with it, and nothing changes.
-/

namespace Exemplar

/-- The level of the subject that the described target supplies. -/
def targetLevel : Int := -1

namespace Run

def scope {U S : Type} (id : Nat) : Run U S (Scope (Value U)) := do
  let w ← Action.get
  match w.scope? id with
  | some s => pure s
  | none => Action.exhausted

end Run

namespace Surface

variable {U S α : Type} (sf : Surface U S)

/-! ## Authoring errors on a scope -/

/-- A value as part of a location: its text, where the value counts as true. -/
def mention (v : Value U) : Step U S (Option String) := do
  let s ← Action.get
  if sf.holds v s then
    let t ← sf.textOf v
    pure (some t)
  else pure none

/-- Raises an authoring error that surfaced in the scope, while a helper was computed if one is named. -/
def raiseIn (f : Forest (Value U)) (scope : Scope (Value U)) (helper : Value U) (cause : Step U S AuthoringCause) :
    Step U S α := do
  let path ← sf.fullText f scope.owner.group
  let cause ← cause
  let helper ← sf.mention helper
  let description ← sf.mention scope.owner.description
  Step.raise (.authoring ⟨cause, some ⟨some path, helper, description, none, none⟩⟩)

/-! ## Chains of definitions -/

/-- The definitions of a name for an example, outermost first. The root's target supplies the outermost definition
of the subject. -/
def definitionsFor (f : Forest (Value U)) (group : Nat) (name : HelperName (Value U)) :
    Step U S (List (Definition (Value U))) :=
  let declared := f.declaredChain group name
  if name.same .subject then
    match f.target? group with
    | some described => do
      let path ← sf.fullText f (f.root group)
      pure (⟨.subject, targetLevel, .target described, path⟩ :: declared)
    | none => pure declared
  else pure declared

end Surface

namespace Engine

variable {U S : Type} (e : Engine U S)

/-! ## Running definitions -/

/-- The subject that a described value supplies: a new instance of a constructible class, or else the value. -/
def defaultSubject (described : Value U) : Run U S (Value U) := do
  let w ← Action.get
  if e.surface.isConstructible described w.outside then e.call described [] else pure described

def produce (c : OuterCall (Value U)) : Run U S (Value U) :=
  match c.current.producer with
  | .callable f => e.callWith f [.scope c.scope, .outer c]
  | .target described => e.defaultSubject described

def callOuter (c : OuterCall (Value U)) : Run U S (Value U) :=
  match c.outward with
  | d :: rest => do
    let serial ← Run.freshSerial
    e.produce ⟨serial, c.scope, d, rest⟩
  | [] => do
    let scope ← Run.scope c.scope
    let w ← Action.get
    let name := c.current.name.toValue
    e.step (e.surface.raiseIn w.forest scope name do
      let text ← e.surface.textOf name
      pure (.overrideWithoutAncestor text))

/-! ## Looking up -/

/-- The authoring error for a name without definitions. -/
def raiseUndefined (scope : Scope (Value U)) (name : HelperName (Value U)) : Run U S (Value U) := do
  let w ← Action.get
  let v := name.toValue
  e.step (e.surface.raiseIn w.forest scope v do
    if name.same .subject then pure .undefinedTarget
    else
      let text ← e.surface.textOf v
      pure (.undefinedHelper text))

/-- The authoring error for a name that is asked for while it is being computed. -/
def raiseCircular (scope : Scope (Value U)) (path : List (HelperName (Value U))) (name : HelperName (Value U)) :
    Run U S (Value U) := do
  let w ← Action.get
  e.step (e.surface.raiseIn w.forest scope name.toValue do
    let texts ← e.surface.textsOf ((path ++ [name]).map HelperName.toValue)
    pure (.circularHelper texts))

/-- Runs a computation with the name among those being computed. -/
def whileComputing {α : Type} (scope : Nat) (name : HelperName (Value U)) (x : Run U S α) : Run U S α := do
  Run.changeScope scope fun s => { s with resolving := s.resolving ++ [name] }
  Action.ensure x fun w => w.updateScope scope fun s => { s with resolving := s.resolving.dropLast }

/-- Computes a name that has no value yet and keeps the value. -/
def compute (id : Nat) (scope : Scope (Value U)) (name : HelperName (Value U)) : Run U S (Value U) := do
  let w ← Action.get
  let definitions ← e.step (e.surface.definitionsFor w.forest scope.owner.group name)
  match definitions.reverse with
  | [] => e.raiseUndefined scope name
  | d :: outward =>
    let serial ← Run.freshSerial
    let v ← whileComputing id name (e.produce ⟨serial, id, d, outward⟩)
    Run.changeScope id fun s => { s with memo := s.memo ++ [(name, v)] }
    e.notice do
      let text ← e.surface.textOf name.toValue
      pure (.resolvedHelper text definitions.length)
    pure v

def lookupName (id : Nat) (name : HelperName (Value U)) : Run U S (Value U) := do
  let scope ← Run.scope id
  match scope.kept? name with
  | some v => pure v
  | none =>
    match scope.pathFrom? name with
    | some path => e.raiseCircular scope path name
    | none => e.compute id scope name

def lookup (id : Nat) (name : Value U) : Run U S (Value U) := do
  let name ← e.step (e.surface.helperName name)
  e.lookupName id name

/-! ## Names on a scope -/

/-- The value that the root of the scope's example describes. -/
def describedTarget (id : Nat) : Run U S (Value U) := do
  let scope ← Run.scope id
  let w ← Action.get
  match w.forest.target? scope.owner.group with
  | some v => pure v
  | none => e.step (e.surface.raiseIn w.forest scope .absent (pure .undefinedTarget))

/-- What stands behind a name on a scope: a member of the scope, nothing for a private name, or else a helper. -/
def access (id : Nat) (name : String) : Run U S (Access (Value U)) :=
  match Member.named? name with
  | some .describedTarget => do
    let v ← e.describedTarget id
    pure (.value v)
  | some m => pure (.member m)
  | none =>
    if isPrivate name then e.complain (.privateName name)
    else do
      let v ← e.lookup id (.text name)
      pure (.value v)

/-! ## First laws -/

theorem lookupName_of_kept? {w : World U S} {id : Nat} {scope : Scope (Value U)} {name : HelperName (Value U)}
    {v : Value U} (hs : w.scope? id = some scope) (hv : scope.kept? name = some v) :
    e.lookupName id name w = (.done v, w) := by
  have h : (Run.scope id : Run U S _) w = (.done scope, w) := by
    simp [Run.scope, Action.bind_apply, Action.get_apply, hs, Action.pure_apply]
  rw [lookupName, Action.bind_done h, hv]
  rfl

end Engine
end Exemplar

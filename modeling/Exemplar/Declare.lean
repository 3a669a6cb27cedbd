import Exemplar.Engine

/-!
# Exemplar.Declare — declaring groups, helpers and examples

A group is open from its creation until its block has ended, in whatever way; after that every declaration in it is
an authoring error that changes nothing. A block is called with the builder of its group, that is with the group's
number, as often as the number is used: builders hold no state of their own.
-/

namespace Exemplar

/-- The message of a pending example that was given none. -/
def defaultPendingMessage : String := "Not yet implemented"

/-- The declaration with its function, where it can wait for one. -/
def Declaration.withFunction {V : Type} (d : Declaration V) (f : V) : Declaration V :=
  match d with
  | .group description _ => .group description f
  | .helper name _ => .helper name f
  | d => d

namespace Surface

variable {U S : Type} (sf : Surface U S)

def checkName (name : Value U) : Step U S Unit := do
  let s ← Action.get
  match sf.text? name s with
  | some t =>
    match NameFault.of? t with
    | none => pure ()
    | some fault => Step.raise (.authoring ⟨.invalidHelperName t fault.reason, none⟩)
  | none => do
    let text ← sf.textOf name
    Step.raise (.authoring ⟨.invalidHelperName text NameFault.empty.reason, none⟩)

end Surface

namespace Engine

variable {U S : Type} (e : Engine U S)

/-! ## Roots -/

/-- Adds a root group and returns its number; a description that is neither absent nor a text is its target. -/
def addRoot (description : Value U) : Run U S Nat := do
  let w ← Action.get
  let target := if e.surface.describesTarget description w.outside then some description else none
  Run.changeForest (·.addGroup (.fresh description none target))
  pure w.forest.groups.size

/-! ## Single groups -/

def ensureOpen (group : Nat) : Run U S Unit := do
  let w ← Action.get
  if w.forest.isSealed group then
    let path ← e.step (e.surface.fullText w.forest group)
    Action.raise (.authoring ⟨.sealedGroup path, none⟩)
  else pure ()

/-- Adds an open nested group and returns its number. -/
def openChild (parent : Nat) (description : Value U) : Run U S Nat := do
  e.ensureOpen parent
  let w ← Action.get
  Run.changeForest (·.addChild parent description)
  pure w.forest.groups.size

/-- Adds an example; without a body it is pending. -/
def addExample (group : Nat) (description : Value U) (body : Option (Value U)) (message : Value U) :
    Run U S (Example (Value U)) := do
  e.ensureOpen group
  let w ← Action.get
  let x : Example (Value U) := ⟨description, group, (w.forest.entries group).length, body, message⟩
  Run.changeForest (·.addEntry group (.example x))
  pure x

/-- Stores a definition of a helper in the group's own table, in place of one of the same name. -/
def define (group : Nat) (name producer : Value U) : Run U S (Definition (Value U)) := do
  e.ensureOpen group
  let w ← Action.get
  let path ← e.step (e.surface.fullText w.forest group)
  let name ← e.step (e.surface.helperName name)
  let d : Definition (Value U) := ⟨name, w.forest.depth group, .callable producer, path⟩
  Run.changeForest (·.define group d)
  pure d

/-- Calls a block with the builder of its group and closes the group when the block has ended. -/
def populate (group : Nat) (block : Value U) : Run U S Unit := do
  Action.ensure (do let _ ← e.callWith block [.builder group]; pure ())
    fun w => { w with forest := w.forest.closeGroup group }
  let w ← Action.get
  let path ← e.step (e.surface.fullText w.forest group)
  e.notice (pure (.declaredGroup path (w.forest.entries group).length))

/-! ## Builders -/

/-- The body and the description of an example declared with these two; a callable alone is a body. -/
def exampleParts (description body : Value U) (s : S) : Value U × Value U :=
  if body.isAbsent && e.surface.isCallable description s then (.absent, description) else (description, body)

def declare (group : Nat) : Declaration (Value U) → Run U S Unit
  | .group description block =>
    if block.isAbsent then pure ()
    else do
      let child ← e.openChild group description
      e.populate child block
  | .helper name producer => do
    e.step (e.surface.checkName name)
    if producer.isAbsent then pure ()
    else
      let _ ← e.define group name producer
      let w ← Action.get
      e.notice do
        let text ← e.surface.textOf name
        pure (.definedHelper text (w.forest.depth group))
  | .example description body => do
    let w ← Action.get
    let (description, body) := e.exampleParts description body w.outside
    if body.isAbsent then
      let message := if e.surface.holds description w.outside then description else .text defaultPendingMessage
      let _ ← e.addExample group description none message
    else
      let _ ← e.addExample group description (some body) .absent
  | .pending message => do
    let _ ← e.addExample group message none message
  | .define name producer => do
    let _ ← e.define group name producer
  | .close => Run.changeForest (·.closeGroup group)

/-! ## Trees -/

/-- Declares a whole tree and returns the number of its root; without a block the root is closed at once. -/
def buildGroup (description block : Value U) : Run U S Nat := do
  let root ← e.addRoot description
  if block.isAbsent then Run.changeForest (·.closeGroup root)
  else e.populate root block
  pure root

end Engine
end Exemplar

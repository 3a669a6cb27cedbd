import Exemplar.Surface

/-!
# Exemplar.Outline — a tree in words

The outline of a group tells everything about it that can be put into words, and the outlines of its entries below
it, in the order of their declaration.
-/

namespace Exemplar

/-- What can be told about an example. -/
structure ExampleOutline (V : Type) where
  description : V
  display : V
  isPending : Bool
  pendingMessage : V

/-- What can be told about a group, its entries apart. A target is told by its text, also an inherited one. -/
structure GroupOutline (V : Type) where
  description : V
  text : String
  full : String
  depth : Nat
  isSealed : Bool
  ownsTarget : Bool
  target : Option String
  root : String
  ancestors : List String
  helpers : HelperTable V
  children : List String
  examples : List V

/-- An outline of an entry. -/
inductive Outline (V : Type) where
  | example (x : ExampleOutline V)
  | group (g : GroupOutline V) (entries : List (Outline V))

namespace GroupOutline

variable {V : Type}

/-- The level of the group's own definition of the subject. -/
def subjectLevel? (g : GroupOutline V) : Option Int := (g.helpers.find? .subject).map (·.level)

end GroupOutline

namespace Surface

variable {U S : Type} (sf : Surface U S)

def outlineExample (f : Forest (Value U)) (x : Example (Value U)) : Step U S (ExampleOutline (Value U)) := do
  let display ← sf.displayName f x
  pure ⟨x.description, display, x.isPending, x.pendingMessage⟩

/-- The group of an entry, if it is one. -/
def childOf? : Entry (Value U) → Option Nat
  | .group id => some id
  | .example _ => none

/-- The example of an entry, if it is one. -/
def exampleOf? : Entry (Value U) → Option (Example (Value U))
  | .group _ => none
  | .example x => some x

/-- The text of the target that the group has or inherits. -/
def targetText (f : Forest (Value U)) (id : Nat) : Step U S (Option String) :=
  match f.target? id with
  | none => pure none
  | some v => do
    let text ← sf.describe v
    pure (some text)

/-- The outline of a group, its entries apart. -/
def outlineGroup (f : Forest (Value U)) (id : Nat) : Step U S (GroupOutline (Value U)) := do
  let own := f.group? id
  let text ← sf.groupText f id
  let full ← sf.fullText f id
  let target ← sf.targetText f id
  let root ← sf.groupText f (f.root id)
  let ancestors ← each (sf.groupText f) (f.ancestors id)
  let children ← each (sf.groupText f) ((f.entries id).filterMap childOf?)
  let examples ← each (sf.displayName f) ((f.entries id).filterMap exampleOf?)
  pure {
    description := (own.map (·.description)).getD .absent
    text := text
    full := full
    depth := f.depth id
    isSealed := f.isSealed id
    ownsTarget := (own.bind (·.target)).isSome
    target := target
    root := root
    ancestors := ancestors
    helpers := f.helpers id
    children := children
    examples := examples }

/-- The outline of a group with everything below it, down to `n` levels. -/
def outlineTo : Nat → Forest (Value U) → Nat → Step U S (Outline (Value U))
  | 0, _, _ => Action.exhausted
  | n + 1, f, id => do
    let g ← sf.outlineGroup f id
    let entries ← each (fun entry => match entry with
      | .example x => do
        let o ← sf.outlineExample f x
        pure (.example o)
      | .group child => outlineTo n f child) (f.entries id)
    pure (.group g entries)

/-- The outline of a group. A nested group has a larger number than the group around it, so no way down is longer
than there are groups. -/
def outline (f : Forest (Value U)) (id : Nat) : Step U S (Outline (Value U)) :=
  sf.outlineTo (f.groups.size + 1) f id

end Surface
end Exemplar

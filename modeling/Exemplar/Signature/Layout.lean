import Exemplar.Signature

/-!
# Exemplar.Signature.Layout — how lists of parameters are put together

A list of parameters is written from left to right. Parameters that are filled by position alone end with a mark, and
what stands behind a parameter that collects the rest, or behind the mark in front of the keyword-only ones, is
keyword-only itself. Not every order makes a list; the first rule that is broken is told.
-/

namespace Exemplar.Signature

/-! ## Faults -/

/-- Why parameters do not make a list. -/
inductive LayoutFault where
  | afterKeywords
  | requiredAfterOptional
  | requiredAfterMark
  | secondMark
  | lateMark
  | secondRest
deriving DecidableEq, Repr

def LayoutFault.message : LayoutFault → String
  | .afterKeywords => "arguments cannot follow var-keyword argument"
  | .requiredAfterOptional => "non-default argument follows default argument"
  | .requiredAfterMark => "invalid syntax"
  | .secondMark => "/ may appear only once"
  | .lateMark => "/ must be ahead of *"
  | .secondRest => "* argument may appear only once"

/-- A list of parameters, or why there is none. -/
abbrev Layout : Type := Except LayoutFault (List Param)

/-! ## Writing from left to right -/

/-- A list that is being written. A required parameter behind an optional one is found out at once, but where the two
stand behind the mark only at the end of the list (`isBroken`). -/
structure Draft where
  written : List Param
  isMarked : Bool
  hasOptional : Bool
  hasOptionalPastMark : Bool
  isBroken : Bool
  pastRest : Bool
  pastKeywords : Bool

namespace Draft

def empty : Draft := ⟨[], false, false, false, false, false, false⟩

def add (d : Draft) (name : String) (kind : ParamKind) (optional : Bool) : Draft :=
  { d with written := d.written ++ [⟨name, kind, optional⟩] }

def refuse (d : Draft) (fault : LayoutFault) : Except LayoutFault Draft :=
  .error (if d.isBroken then .requiredAfterMark else fault)

/-- Writes a parameter that receives one argument by position, or only by keyword past the place for the rest. -/
def addSlot (d : Draft) (name : String) (kind : ParamKind) (optional : Bool) : Except LayoutFault Draft :=
  if d.pastRest then .ok (d.add name .keywordOnly optional)
  else if optional then
    .ok { d.add name kind optional with hasOptional := true, hasOptionalPastMark := d.isMarked }
  else if d.hasOptionalPastMark then .ok { d.add name kind optional with isBroken := true }
  else if d.hasOptional then .error .requiredAfterOptional
  else .ok (d.add name kind optional)

/-- Marks the end of the parameters that are filled by position alone. -/
def mark (d : Draft) : Except LayoutFault Draft :=
  if d.pastRest then .error .lateMark
  else if d.isMarked then .error .secondMark
  else .ok { d with written := d.written.map fun p => { p with kind := .positionalOnly }, isMarked := true }

/-- Writes a parameter, before one of the kind `next`. -/
def write (d : Draft) (name : String) (kind : ParamKind) (optional : Bool) (next : Option ParamKind) :
    Except LayoutFault Draft :=
  if d.pastKeywords then d.refuse .afterKeywords
  else match kind with
    | .keywords => .ok { d.add name kind optional with pastKeywords := true }
    | .rest => if d.pastRest then d.refuse .secondRest else .ok { d.add name kind optional with pastRest := true }
    | .keywordOnly => .ok { d.add name kind optional with pastRest := true }
    | .positional => d.addSlot name kind optional
    | .positionalOnly => do
      let d ← d.addSlot name kind optional
      if next = some .positionalOnly then .ok d else d.mark

def finish (d : Draft) : Layout := if d.isBroken then .error .requiredAfterMark else .ok d.written

end Draft

/-- Writes parameters that are named by their places, from place `i` on. -/
def layoutFrom (d : Draft) (i : Nat) : List (ParamKind × Bool) → Layout
  | [] => d.finish
  | (kind, optional) :: r =>
    match d.write ("a" ++ toString i) kind optional (r.head?.map (·.1)) with
    | .ok d => layoutFrom d (i + 1) r
    | .error fault => .error fault

/-- The list of parameters of these kinds, the optional ones marked. -/
def layout (kinds : List (ParamKind × Bool)) : Layout := layoutFrom .empty 0 kinds

/-- The list of parameters behind a first one, which is left out of it. -/
def layoutBehindFirst (kinds : List (ParamKind × Bool)) : Layout :=
  (layout ((.positional, false) :: kinds)).map List.tail

end Exemplar.Signature

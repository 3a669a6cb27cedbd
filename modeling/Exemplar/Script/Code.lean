import Exemplar.Script.Show

/-!
# Exemplar.Script.Code — programs of a specification

The forms that programs of a specification are put together from: a look at the state, a new object, a refusal, a
call, and a question about a scope.

* `bindArguments_of_accepts`: a call that the parameters accept goes through.
-/

namespace Exemplar.Script

/-! ## Simple programs -/

/-- A program that raises a new error of a known class with a message. -/
def refuse {α : Type} (cls message : String) : Code α := .step (complain cls message)

def make (o : Obj) : Code V := .step (alloc o)

def makeList (vs : List V) : Code V := make (.list (.named "list") vs.toArray)

def store : Code Store := .step Action.get

def callValue (f : V) (args : List V) : Code V := .ask (.call f args)

def lookup (scope : Nat) (name : V) : Code V := .ask (.lookup scope name)

def fromScope {α : Type} (i : Nat) (default : α) (f : World Atom Store → Scope V → α) : Code α :=
  .ask (.observe fun w => ((w.scope? i).map (f w)).getD default)

/-- Runs a program for each of the values, from left to right. -/
def eachOf {α β : Type} (f : α → Code β) : List α → Code (List β)
  | [] => pure []
  | a :: r => do
    let b ← f a
    let bs ← eachOf f r
    pure (b :: bs)

/-! ## Calls -/

/-- Refuses a call that the parameters do not accept. -/
def bindArguments (callee : String) (ps : List Param) (given : Nat) : Code Unit :=
  match (⟨ps⟩ : Signature).bindFault? given with
  | none => pure ()
  | some fault => refuse "TypeError" (fault.message callee)

theorem bindArguments_of_accepts (callee : String) (ps : List Param) (given : Nat)
    (h : (⟨ps⟩ : Signature).accepts given = true) : bindArguments callee ps given = pure () := by
  unfold bindArguments
  rw [Option.isNone_iff_eq_none.mp h]

/-- Refuses keywords that no parameter goes by, or whose parameter has received one of the `given` arguments. -/
def bindKeywords (callee : String) (ps : List Param) (given : Nat) : List String → Code Unit
  | [] => pure ()
  | k :: r =>
    match ps.findIdx? fun p => p.name == k && !p.collects && p.kind != .positionalOnly with
    | some i =>
      if i < given then refuse "TypeError" (callee ++ "() got multiple values for argument '" ++ k ++ "'")
      else bindKeywords callee ps given r
    | none =>
      if ps.any (·.kind == .keywords) then bindKeywords callee ps given r
      else refuse "TypeError" (callee ++ "() got an unexpected keyword argument '" ++ k ++ "'")

/-- Raises the error of grammar for a list of parameters that is not put together as it has to be. -/
def malformed {α : Type} (fault : Signature.LayoutFault) : Code α := do
  let parts := [("msg", .text fault.message), ("filename", .text "<string>"), ("lineno", ofInt 1)]
  let e ← make (.error (.named "SyntaxError") [.text fault.message] parts)
  .raise (.thrown e)

/-! ## Errors -/

/-- Goes on with another program where the first one raises an error of the known class. -/
def orElseOn {α : Type} (t : ClassTable) (cls : String) (p otherwise : Code α) : Code α := do
  match ← p.attempt with
  | .ok a => pure a
  | .error e => do
    let s ← store
    if isErrorOf t e cls s then otherwise else .raise e

/-- Raises a value as an error; a class is called first. -/
def raiseValue (t : ClassTable) (v : V) : Code V := do
  let s ← store
  if t.isError (classOf t v s) then .raise (.thrown v)
  else match v with
    | .user (.cls c) =>
      if t.isError c then do
        let e ← callValue v []
        .raise (.thrown e)
      else refuse "TypeError" "exceptions must derive from BaseException"
    | _ => refuse "TypeError" "exceptions must derive from BaseException"

/-- Raises a new error about a name that nothing is kept under. -/
def unknownName {α : Type} (v : V) : Code α := .step (raiseNew "KeyError" [v])

end Exemplar.Script

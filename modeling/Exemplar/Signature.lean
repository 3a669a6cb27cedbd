/-!
# Exemplar.Signature — parameter lists, and how many arguments to offer

A callable that can be inspected has a list of parameters. `Signature.arity` counts the positional arguments worth
offering out of those at hand; `Signature.bindFault?` is the rule by which a call with positional arguments alone
is refused. The two are written apart from each other.

* `bindFault?_arity_ne_tooMany`: a call with the counted arguments is never refused for too many.
* `bindFault?_of_arity_lt`: one argument more than counted, where one more was at hand, is refused as too many.
-/

namespace Exemplar

/-! ## Parameters -/

/-- How a parameter receives its argument. -/
inductive ParamKind where
  | positionalOnly
  | positional
  | rest
  | keywordOnly
  | keywords
deriving DecidableEq, Repr

/-- One parameter of a callable. -/
structure Param where
  name : String
  kind : ParamKind
  optional : Bool
deriving DecidableEq, Repr

/-- The parameter is filled by position, one argument each. -/
def Param.isSlot (p : Param) : Bool :=
  p.kind == .positionalOnly || p.kind == .positional

/-- The parameter collects whatever is left over. -/
def Param.collects (p : Param) : Bool :=
  p.kind == .rest || p.kind == .keywords

/-- The parameters of an inspectable callable, in order. -/
structure Signature where
  params : List Param
deriving DecidableEq, Repr

namespace Signature

def slots (s : Signature) : List Param :=
  s.params.filter Param.isSlot

def keywordOnly (s : Signature) : List Param :=
  s.params.filter (·.kind == .keywordOnly)

/-- Some parameter collects the remaining positional arguments. -/
def hasRest (s : Signature) : Bool :=
  s.params.any (·.kind == .rest)

def needsNothing (s : Signature) : Bool :=
  s.params.all fun p => p.optional || p.collects

/-! ## Arity -/

/-- How many of `limit` arguments the callable can take by position. -/
def arity (s : Signature) (limit : Nat) : Nat :=
  if s.hasRest then limit else min s.slots.length limit

/-- The same for a callable that perhaps cannot be inspected; such a one is offered everything. -/
def arityOf (s? : Option Signature) (limit : Nat) : Nat :=
  match s? with
  | some s => s.arity limit
  | none => limit

/-- The same for a bound that may be negative; such a bound is its own answer. -/
def arityWithin (s? : Option Signature) (limit : Int) : Int :=
  if limit < 0 then limit else arityOf s? limit.toNat

theorem arityOf_le (s? : Option Signature) (limit : Nat) : arityOf s? limit ≤ limit := by
  cases s? with
  | none => exact Nat.le_refl _
  | some s =>
    simp only [arityOf, arity]
    split
    · exact Nat.le_refl _
    · exact Nat.min_le_right _ _

/-! ## Calls by position -/

/-- Why a call with positional arguments is refused. -/
inductive BindFault where
  | tooMany (least most given : Nat)
  | missing (names : List String)
  | missingKeywords (names : List String)
deriving DecidableEq, Repr

/-- The parameters in `ps` that have no default. -/
def required (ps : List Param) : List Param :=
  ps.filter (!·.optional)

/-- The first rule that a call with `given` positional arguments breaks. -/
def bindFault? (s : Signature) (given : Nat) : Option BindFault :=
  if !s.hasRest && s.slots.length < given then
    some (.tooMany (required s.slots).length s.slots.length given)
  else match required (s.slots.drop given), required s.keywordOnly with
    | [], [] => none
    | [], ks => some (.missingKeywords (ks.map (·.name)))
    | ps, _ => some (.missing (ps.map (·.name)))

def accepts (s : Signature) (given : Nat) : Bool :=
  (s.bindFault? given).isNone

theorem bindFault?_arity_ne_tooMany (s : Signature) (limit least most given : Nat) :
    s.bindFault? (s.arity limit) ≠ some (.tooMany least most given) := by
  cases hr : s.hasRest
  · have h : ¬ s.slots.length < min s.slots.length limit := Nat.not_lt.mpr (Nat.min_le_left _ _)
    simp only [bindFault?, arity, hr, Bool.not_false, Bool.true_and, Bool.false_eq_true, if_false, decide_eq_true_eq, h]
    split <;> simp
  · simp only [bindFault?, arity, hr, Bool.not_true, Bool.false_and, Bool.false_eq_true, if_false, if_true]
    split <;> simp

theorem bindFault?_of_arity_lt (s : Signature) {limit n : Nat} (h : s.arity limit < n) (hn : n ≤ limit) :
    s.bindFault? n = some (.tooMany (required s.slots).length s.slots.length n) := by
  unfold arity at h
  split at h
  · omega
  · rename_i hr
    have hlt : s.slots.length < n := by omega
    simp [bindFault?, hr, hlt]

/-! ## Words -/

/-- Names as a list in a sentence: `'a'`, `'a' and 'b'`, `'a', 'b', and 'c'`. -/
def joinNames (names : List String) : String :=
  let quoted := names.map fun n => "'" ++ n ++ "'"
  match quoted with
  | [] => ""
  | [a] => a
  | [a, b] => a ++ " and " ++ b
  | _ => ", ".intercalate quoted.dropLast ++ ", and " ++ (quoted.getLast?.getD "")

/-- The refusal in words, for a callable of that name. -/
def BindFault.message (callee : String) : BindFault → String
  | .tooMany least most given =>
    let taken := if least = most then toString most else "from " ++ toString least ++ " to " ++ toString most
    let plural := if least = most && most == 1 then "" else "s"
    let verb := if given = 1 then "was" else "were"
    callee ++ "() takes " ++ taken ++ " positional argument" ++ plural ++ " but " ++ toString given ++ " " ++ verb ++
      " given"
  | .missing names => lacking "positional" names
  | .missingKeywords names => lacking "keyword-only" names
where
  /-- The arguments that are still wanted. -/
  lacking (sort : String) (names : List String) : String :=
    let plural := if names.length = 1 then "" else "s"
    callee ++ "() missing " ++ toString names.length ++ " required " ++ sort ++ " argument" ++ plural ++ ": " ++
      joinNames names

end Signature
end Exemplar

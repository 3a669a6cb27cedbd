import Exemplar.Text.Identifier

/-!
# Exemplar.HelperName — the names a helper may be declared under

A helper is reached through its scope like a member of it, so its name must be an identifier, must not be private
and must not hide a member that the scope has anyway. `NameFault.of?` tells the first rule that a text breaks.

* `Member.named?_isSome`: the reserved names are those of the members of a scope.
* `NameFault.of?_eq_none`: a text without fault is an identifier that is no keyword, does not start with an
  underscore and is not reserved.
* `HelperName.same_text`: two texts are the same name exactly when they are equal.
-/

namespace Exemplar

/-! ## Members of the scope -/

/-- What every scope offers besides its helpers. -/
inductive Member where
  | expect
  | expectDeferred
  | isExpected
  | describedTarget
  | resolve
  | resolver
  | successes
  | example
deriving DecidableEq, Repr

def Member.all : List Member :=
  [.expect, .expectDeferred, .isExpected, .describedTarget, .resolve, .resolver, .successes, .example]

def Member.name : Member → String
  | .expect => "expect"
  | .expectDeferred => "expect_deferred"
  | .isExpected => "is_expected"
  | .describedTarget => "described_target"
  | .resolve => "resolve"
  | .resolver => "resolver"
  | .successes => "successes"
  | .example => "example"

def Member.named? (s : String) : Option Member :=
  Member.all.find? (·.name == s)

def reservedNames : List String :=
  ["expect", "expect_deferred", "is_expected", "described_target", "resolve", "resolver", "successes", "example"]

/-- Reserved are the names of the members, no more and no fewer. -/
theorem Member.named?_isSome (s : String) : (Member.named? s).isSome = reservedNames.contains s := by
  have hnames : reservedNames = Member.all.map Member.name := rfl
  rw [Member.named?, List.isSome_find?, hnames, List.contains_eq_any_beq, List.any_map]
  exact List.any_congr rfl fun m => Bool.beq_comm

/-- The name of the helper that every described target supplies. -/
def subjectName : String := "subject"

/-! ## Faults of a name -/

/-- Why a text cannot name a helper. -/
inductive NameFault where
  | empty
  | notIdentifier
  | leadingUnderscore
  | reserved
deriving DecidableEq, Repr

/-- The rule that is broken, in words. -/
def NameFault.reason : NameFault → String
  | .empty => "must be a non-empty string"
  | .notIdentifier => "must be a valid Python identifier"
  | .leadingUnderscore => "must not start with an underscore"
  | .reserved => "is reserved by the example scope"

/-- A name that starts with an underscore is private. -/
def isPrivate (s : String) : Bool :=
  s.toList.head? == some '_'

def NameFault.of? (s : String) : Option NameFault :=
  if s = "" then some .empty
  else if !Text.isIdentifier s || Text.isKeyword s then some .notIdentifier
  else if isPrivate s then some .leadingUnderscore
  else if reservedNames.contains s then some .reserved
  else none

theorem NameFault.of?_eq_none {s : String} (h : NameFault.of? s = none) :
    Text.isIdentifier s = true ∧ Text.isKeyword s = false ∧ isPrivate s = false ∧ Member.named? s = none := by
  unfold NameFault.of? at h
  split at h
  · cases h
  split at h
  · cases h
  split at h
  · cases h
  split at h
  · cases h
  next hreserved =>
    rw [← Member.named?_isSome] at hreserved
    simp_all

/-! ## Names as keys -/

/-- A name under which a helper is stored: a text, a value that counts as one, or any other value together with the
key that stands for it. -/
inductive HelperName (V : Type) where
  | text (s : String)
  | textLike (s : String) (value : V)
  | other (key : String) (value : V)

namespace HelperName

variable {V : Type}

def text? : HelperName V → Option String
  | .text s | .textLike s _ => some s
  | .other _ _ => none

/-- The key of a name that is no text. -/
def key? : HelperName V → Option String
  | .text _ | .textLike _ _ => none
  | .other k _ => some k

/-- The two names store and find the same helper. -/
def same (n m : HelperName V) : Bool :=
  n.text? == m.text? && n.key? == m.key?

def subject : HelperName V := .text subjectName

theorem same_text (s t : String) : same (.text s : HelperName V) (.text t) = true ↔ s = t := by
  simp [same, text?, key?]

theorem same_refl (n : HelperName V) : same n n = true := by
  simp [same]

theorem same_symm (n m : HelperName V) : same n m = same m n := by
  simp [same, Bool.beq_comm]

theorem same_trans {n m k : HelperName V} (h : same n m = true) (h' : same m k = true) : same n k = true := by
  simp_all [same]

end HelperName

end Exemplar

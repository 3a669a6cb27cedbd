import Exemplar.Session

/-!
# Exemplar.Proofs.Numbers — a specification made of numbers

A small host for the theory to be seen at work. Its values are numbers, and each is a function that runs the code under
that number. A number is shown by its digits, unless it is one of those that cannot be shown.

* `Host.numbers`: the host, given the code and the numbers that cannot be shown.
* `Host.nested`: a host whose blocks declare a group in a group.
* `Host.apart`: a host for one example in two different trees.
-/

namespace Exemplar

/-- The code under each number. -/
abbrev NumberedCode := Nat → List (Value Nat) → Program Nat Unit (Value Nat)

/-- The text of a value; some numbers have none and raise themselves. -/
def numberText (hidden : Nat → Bool) (v : Value Nat) : Step Nat Unit String :=
  match v with
  | .user u => if hidden u then Step.raise (.thrown (.user u)) else pure (toString u)
  | .text t => pure t
  | .flag b => pure (toString b)
  | _ => pure ""

/-- The number that the value is. -/
def numberOf? : Value Nat → Option Nat
  | .user u => some u
  | _ => none

/-- Two values are the same number, text or truth value. -/
def sameNumber (a b : Value Nat) : Bool :=
  match a, b with
  | .user u, .user u' => u == u'
  | .text t, .text t' => t == t'
  | .flag b, .flag b' => b == b'
  | .absent, .absent => true
  | _, _ => false

/-- The host of the numbers. -/
def Host.numbers (hidden : Nat → Bool) (code : NumberedCode) : Host Nat Unit where
  repr := numberText hidden
  str := numberText hidden
  typeName _ _ := "number"
  truthy u _ := u != 0
  callable _ _ := true
  signature? _ _ := none
  class? _ _ := none
  nameOf? _ _ := none
  ownText? _ _ := none
  decoded? _ _ := none
  items? _ _ := none
  key := numberText hidden
  equal a b := pure (sameNumber a b)
  identical a b _ := sameNumber a b
  isInstance _ _ := pure false
  minus a _ := pure a
  magnitude a := pure a
  atMost _ _ := pure true
  kind _ _ := .ordinary
  endsSequence _ _ := false
  catches _ _ := pure true
  complaint c _ := (.text c.message, ())
  call := code
  contains _ _ := pure false
  matchesActual _ _ := pure (.flag true)
  traitOf _ _ := pure none
  judge _ _ negate m := pure ⟨true, .absent, none, negate, m⟩

/-- The block under 1 declares a helper, a nested group, whatever may become of it, and an example. The block under 2
declares an example around its own group, the helper, an example and the helper anew, and raises. The block under 3
declares an example and a nested group with one example. -/
def nestedBlocks : NumberedCode
  | 1, [.builder g] => do
    Program.ask (.declare g (.helper (.text "x") (.user 7)))
    let _ ← Program.attempt (.ask (.declare g (.group (.text "inner") (.user 2))))
    Program.ask (.declare g (.example (.text "last") (.user 6)))
    Pure.pure .absent
  | 2, [.builder g] => do
    Program.ask (.declare 0 (.example (.text "between") (.user 6)))
    Program.ask (.declare g (.helper (.text "x") (.user 8)))
    Program.ask (.declare g (.example (.text "within") (.user 6)))
    Program.ask (.declare g (.helper (.text "x") (.user 9)))
    Program.raise (.thrown (.user 5))
  | 3, [.builder g] => do
    Program.ask (.declare g (.pending (.text "first")))
    Program.ask (.declare g (.group (.text "inner") (.user 4)))
    Pure.pure .absent
  | 4, [.builder g] => do
    Program.ask (.declare g (.example (.text "second") (.user 6)))
    Pure.pure .absent
  | _, _ => Pure.pure .absent

/-- The host of these blocks. -/
def Host.nested : Host Nat Unit := .numbers (fun _ => false) nestedBlocks

/-- The block under 1 declares a helper and a group with an example. The block under 2 does the same after another
group, which has a helper of that name and an example of its own. -/
def apartBlock : Nat → Nat → Program Nat Unit (Value Nat)
  | 1, g => do
    Program.ask (.declare g (.helper (.text "x") (.user 7)))
    Program.ask (.declare g (.group (.text "inner") (.user 4)))
    Pure.pure .absent
  | 2, g => do
    Program.ask (.declare g (.group (.text "aside") (.user 3)))
    Program.ask (.declare g (.helper (.text "x") (.user 7)))
    Program.ask (.declare g (.group (.text "inner") (.user 4)))
    Pure.pure .absent
  | 3, g => do
    Program.ask (.declare g (.helper (.text "x") (.user 8)))
    Program.ask (.declare g (.example (.text "shown") (.user 5)))
    Pure.pure .absent
  | 4, g => do
    Program.ask (.declare g (.example (.text "told") (.user 6)))
    Pure.pure .absent
  | _, _ => Pure.pure .absent

/-- Under these blocks each example looks the helper up, and the one under 6 fails with its value. -/
def apartCode : NumberedCode := fun u vs =>
  match vs with
  | [.builder g] => apartBlock u g
  | [.scope i] => .bind (.ask (.lookup i (.text "x"))) fun v => if u = 6 then .raise (.failure v) else .pure v
  | _ => .pure (.text (if u = 7 then "seven" else "eight"))

/-- The host of this code. -/
def Host.apart : Host Nat Unit := .numbers (fun _ => false) apartCode

end Exemplar

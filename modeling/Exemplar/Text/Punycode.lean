import Exemplar.Text.Coding

/-!
# Exemplar.Text.Punycode — texts as short words of ASCII

The ASCII characters of a text come first. Behind a hyphen the others are told in the order of their numbers, each by
how many steps lie between it and the one before; a step goes from one place of the text to the next, and behind the
last place to the next number. Steps are counted in digits of base thirty-six whose weights grow as needed.
-/

namespace Exemplar.Text.Punycode

/-! ## Numbers of steps -/

def base : Nat := 36

/-- The last digit of a number lies below this, for the digit at place `k` and a text whose numbers lean to `bias`. -/
def threshold (k bias : Nat) : Nat :=
  let weight := base * (k + 1)
  if weight ≤ bias then 1 else min (weight - bias) 26

def firstBias : Nat := 72

/-- Divides until the number is small; counts how often. -/
def shrink : Nat → Nat → Nat → Nat × Nat
  | 0, n, times => (n, times)
  | fuel + 1, n, times => if 455 < n then shrink fuel (n / 35) (times + 1) else (n, times)

/-- The bias after a number of steps, `count` characters being placed. -/
def adapt (steps : Nat) (isFirst : Bool) (count : Nat) : Nat :=
  let n := if isFirst then steps / 700 else steps / 2
  let n := n + n / count
  let (n, times) := shrink n.log2.succ n 0
  base * times + base * n / (n + 38)

/-! ## Encoding -/

def digit (n : Nat) : Nat := if n < 26 then 97 + n else 48 + (n - 26)

/-- The digits of a number, from the one at place `k` on. -/
def digitsOf (bias : Nat) : Nat → Nat → Nat → List Nat
  | 0, _, n => [digit n]
  | fuel + 1, k, n =>
    let t := threshold k bias
    if n < t then [digit n] else digit (t + (n - t) % (base - t)) :: digitsOf bias fuel (k + 1) ((n - t) / (base - t))

/-- How far writing has come: the bytes, the bias, how many characters are placed, the steps since the last one. -/
structure Progress where
  bytes : List Nat
  bias : Nat
  count : Nat
  steps : Nat
  isFirst : Bool

def Progress.place (p : Progress) : Progress :=
  { bytes := p.bytes ++ digitsOf p.bias (p.steps.log2 + 1) 0 p.steps, bias := adapt p.steps p.isFirst (p.count + 1),
    count := p.count + 1, steps := 0, isFirst := false }

/-- Goes over the text with the number `n`, which comes after the number `before`. -/
def Progress.pass (p : Progress) (cs : List Char) (before n : Nat) : Progress :=
  let p := { p with steps := p.steps + (n - before) * (p.count + 1) }
  cs.foldl (fun p c =>
    if codePoint c < n then { p with steps := p.steps + 1 } else if codePoint c = n then p.place else p) p

def passes (cs : List Char) : Progress → Nat → List Nat → Progress
  | p, _, [] => p
  | p, before, n :: r =>
    let q := p.pass cs before n
    passes cs { q with steps := q.steps + 1 } (n + 1) r

def encode (cs : List Char) : List Nat :=
  let plain := (cs.filter fun c => c.toNat < 128).map Char.toNat
  let numbers := (((cs.map codePoint).filter (128 ≤ ·)).mergeSort fun a b => decide (a ≤ b)).eraseDups
  let p := passes cs ⟨[], firstBias, plain.length, 0, true⟩ 128 numbers
  if plain.isEmpty then p.bytes else plain ++ '-'.toNat :: p.bytes

/-! ## Decoding -/

def digitValue? (b : Nat) : Option Nat :=
  if 97 ≤ b ∧ b ≤ 122 then some (b - 97)
  else if 65 ≤ b ∧ b ≤ 90 then some (b - 65)
  else if 48 ≤ b ∧ b ≤ 57 then some (b - 48 + 26)
  else none

/-- The number that bytes begin with, and the bytes behind it. -/
def numberOf (bias : Nat) : Nat → Nat → Nat → List Nat → Except String (Nat × List Nat)
  | _, _, _, [] => .error "incomplete punicode string"
  | k, n, weight, b :: r =>
    match digitValue? b with
    | none => .error ("Invalid extended code point '" ++ String.singleton (Char.ofNat b).toUpper ++ "'")
    | some d =>
      let t := threshold k bias
      let n := n + d * weight
      if d < t then .ok (n, r) else numberOf bias (k + 1) n (weight * (base - t)) r

/-- Places the characters that bytes tell, in at most `fuel` steps: `number` and `at` tell where the last one was. -/
def insertFrom (remedy : Remedy) : Nat → Nat → Nat → Nat → Bool → List Char → List Nat → Except String (List Char)
  | 0, _, _, _, _, cs, _ => .ok cs
  | _ + 1, _, _, _, _, cs, [] => .ok cs
  | fuel + 1, number, place, bias, isFirst, cs, bs =>
    match numberOf bias 0 0 1 bs with
    | .error reason => if remedy = .strict then .error reason else .ok cs
    | .ok (steps, r) =>
      let total := place + steps
      let count := cs.length + 1
      let number := number + total / count
      let place := total % count
      if 0x110000 ≤ number && remedy = .strict then
        .error ("Invalid character U+" ++ String.ofList (hexText 1 number))
      else
        let number := if 0x110000 ≤ number then '?'.toNat else number
        let cs := cs.take place ++ charOf number :: cs.drop place
        insertFrom remedy fuel number (place + 1) (adapt steps isFirst count) false cs r

/-- The bytes before the last hyphen and those behind it. -/
def parts (bs : List Nat) : List Nat × List Nat :=
  let behind := (bs.reverse.takeWhile (· != '-'.toNat)).reverse
  if behind.length = bs.length then ([], bs) else (bs.take (bs.length - behind.length - 1), behind)

def decode (remedy : Remedy) (bs : List Nat) : Except CodingFault (List Char) :=
  let (plain, more) := parts bs
  match (insertFrom remedy (more.length + 1) 128 0 firstBias true (plain.map Char.ofNat) more) with
  | .ok cs => .ok cs
  | .error reason => .error (.whole reason)

end Exemplar.Text.Punycode

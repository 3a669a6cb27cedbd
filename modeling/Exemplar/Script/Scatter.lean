/-!
# Exemplar.Script.Scatter — the order in which the members of a set come

A set keeps its members in a table of slots. A number that belongs to a member tells where its way through the table
begins; it takes the first free slot on that way. The members come in the order of the slots. A table that has become
too full is replaced by a larger one, into which the members are put in the order in which they come.

* `hashInt_natAbs_lt`: the numbers of integers fit into 64 bits.
-/

namespace Exemplar.Script

/-! ## Tables -/

/-- A table of slots, with how many of them have been filled. -/
structure Table (α : Type) where
  slots : Array (Option (Nat × α))
  filled : Nat

namespace Table

variable {α : Type}

def leastRoom : Nat := 8

def ofRoom (room : Nat) : Table α := ⟨Array.replicate room none, 0⟩

def empty : Table α := ofRoom leastRoom

/-- How many slots lie behind the one that a stage of the way begins with, in the same stage. -/
def stageLength : Nat := 9

/-- The first free slot among `n + 1` from `i` on. -/
def freeFrom? (slots : Array (Option (Nat × α))) (i : Nat) : (n : Nat) → Option Nat
  | 0 => if (slots[i]?.bind id).isNone then some i else none
  | n + 1 => if (slots[i]?.bind id).isNone then some i else freeFrom? slots (i + 1) n

/-- The slot for a member whose way is at slot `i`; `rest` is what the way has not used yet of the member's number. A
stage at the end of the table is one slot long. -/
def freeSlot (slots : Array (Option (Nat × α))) : (fuel i rest : Nat) → Nat
  | 0, i, _ => i
  | fuel + 1, i, rest =>
    let n := if i + stageLength < slots.size then stageLength else 0
    match freeFrom? slots i n with
    | some j => j
    | none =>
      let rest := rest / 32
      freeSlot slots fuel ((i * 5 + 1 + rest) % slots.size) rest

def place (t : Table α) (number : Nat) (a : α) : Table α :=
  let i := freeSlot t.slots (t.slots.size + 64) (number % t.slots.size) number
  ⟨t.slots.setIfInBounds i (some (number, a)), t.filled + 1⟩

/-- The members with their numbers, in order. -/
def entries (t : Table α) : List (Nat × α) := t.slots.toList.filterMap id

def members (t : Table α) : List α := t.entries.map (·.2)

/-- The least power of two from `room` on that is greater than `n`. -/
def roomAbove (n : Nat) : (fuel room : Nat) → Nat
  | 0, room => room
  | fuel + 1, room => if room ≤ n then roomAbove n fuel (2 * room) else room

/-- Puts members into a table that has more than `n` slots. -/
def refill (entries : List (Nat × α)) (n : Nat) : Table α :=
  entries.foldl (fun t e => t.place e.1 e.2) (ofRoom (roomAbove n 64 leastRoom))

def growth (n : Nat) : Nat := if 50000 < n then 2 * n else 4 * n

def add (t : Table α) (number : Nat) (a : α) : Table α :=
  let t := t.place number a
  if t.filled * 5 < (t.slots.size - 1) * 3 then t else refill t.entries (growth t.filled)

/-- The table has too little room for `n` more members. -/
def lacksRoom (t : Table α) (n : Nat) : Bool := (t.slots.size - 1) * 3 ≤ (t.filled + n) * 5

/-- A new table with room for `n` members. -/
def roomFor (n : Nat) : Table α := if (empty : Table α).lacksRoom n then refill [] (2 * n) else empty

/-- The table with these members, added one after the other to a table. -/
def addAll (t : Table α) (entries : List (Nat × α)) : Table α := entries.foldl (fun t e => t.add e.1 e.2) t

/-- A copy, which has only as much room as it needs. A table of that room is copied slot by slot, unless a member has
been taken out of it. -/
def copy (t : Table α) : Table α :=
  let room := (roomFor t.entries.length : Table α)
  if room.slots.size = t.slots.size ∧ t.filled = t.entries.length then t
  else t.entries.foldl (fun t e => t.place e.1 e.2) room

/-- The table without the members that are out. When few can be out, they are taken out of a copy, in which their slots
stay lost. -/
def without (t : Table α) (out : α → Bool) (most : Nat) : Table α :=
  if t.entries.length / 4 ≤ most then empty.addAll (t.entries.filter fun e => !out e.2)
  else
    let c := t.copy
    ⟨c.slots.map fun e => e.filter fun e => !out e.2, c.filled⟩

/-- The members, each together with a thing of the list. -/
def zip {β : Type} (t : Table α) (l : List β) : Table (α × β) :=
  let step := fun (done : Array (Option (Nat × α × β)) × List β) (e : Option (Nat × α)) =>
    match e, done.2 with
    | some (n, a), b :: l => (done.1.push (some (n, a, b)), l)
    | _, l => (done.1.push none, l)
  ⟨(t.slots.foldl step (#[], l)).1, t.filled⟩

/-- The table with other members in the same slots. -/
def map {β : Type} (f : α → β) (t : Table α) : Table β := ⟨t.slots.map fun e => e.map fun p => (p.1, f p.2), t.filled⟩

/-- The table without members that has just been made with room for `n` members. -/
def forMany (n : Nat) (entries : List (Nat × α)) : Table α := (roomFor n).addAll entries

end Table

/-! ## Members -/

/-- The members of a set: in a table, or as they came where the number of one of them is not known. -/
inductive Members (α : Type) where
  | scattered (t : Table α)
  | listed (l : List α)

namespace Members

variable {α : Type}

def none : Members α := .scattered .empty

def toList : Members α → List α
  | .scattered t => t.members
  | .listed l => l

def count (m : Members α) : Nat := m.toList.length

/-- Members with their numbers, as they came; `room` tells for how many of them room has been made before. -/
def ofList (room : Nat) (l : List (Option Nat × α)) : Members α :=
  match l.mapM fun e => e.1.map fun n => (n, e.2) with
  | some entries => .scattered (.forMany room entries)
  | Option.none => .listed (l.map (·.2))

def copy : Members α → Members α
  | .scattered t => .scattered t.copy
  | .listed l => .listed l

/-- The members that are not among the `most` ones that are out; for each member in order, the list tells whether it is
out. -/
def without (m : Members α) (out : List Bool) (most : Nat) : Members α :=
  match m with
  | .scattered t => .scattered (((t.zip out).without (·.2) most).map (·.1))
  | .listed l => .listed (((l.zip out).filter fun p => !p.2).map (·.1))

end Members

/-! ## Numbers of numbers -/

/-- Numbers count up to this one, a prime of the form of a power of two less one. -/
def hashPrime : Nat := 2305843009213693951

def hashRange : Nat := 18446744073709551616

/-- A remainder with a sign, as a number of 64 bits; the number less one is left to what has none. -/
def signedHash (negative : Bool) (n : Nat) : Nat :=
  if !negative then n else hashRange - (if n = 1 then 2 else if n = 0 then hashRange else n)

def hashInt (n : Int) : Nat := signedHash (decide (n < 0)) (n.natAbs % hashPrime)

/-- The number of a quotient by a power of two, the exponent being `k`: halving is doubling sixty times. -/
def hashQuotient (n : Int) (k : Nat) : Nat :=
  signedHash (decide (n < 0)) ((n.natAbs % hashPrime) * (1 <<< ((61 - k % 61) % 61)) % hashPrime)

/-- The number of a complex number whose parts have these numbers. -/
def hashComplex (re im : Nat) : Nat :=
  let n := (re + 1000003 * im) % hashRange
  if n = hashRange - 1 then hashRange - 2 else n

def hashInfinite (negative : Bool) : Nat := signedHash negative 314159

/-! ## Numbers of sequences -/

/-- Mixes a number into one that stands for the members of a sequence before it. -/
def mixHash (acc lane : Nat) : Nat :=
  let acc := (acc + lane * 14029467366897019727) % hashRange
  let turned := (acc * 2147483648 + acc / 8589934592) % hashRange
  turned * 11400714785074694791 % hashRange

/-- The number of a sequence whose members have these numbers. -/
def hashSequence (lanes : List Nat) : Nat :=
  let first := 2870177450012600261
  let acc := lanes.foldl mixHash first
  let acc := (acc + (lanes.length ^^^ (first ^^^ 3527539))) % hashRange
  if acc = hashRange - 1 then 1546275796 else acc

def spreadHash (n : Nat) : Nat := ((n ^^^ 89869747) ^^^ (n * 65536 % hashRange)) * 3644798167 % hashRange

/-- The number of a set whose members have these numbers, in whatever order they come. -/
def hashSet (lanes : List Nat) : Nat :=
  let all := lanes.foldl (fun acc n => acc ^^^ spreadHash n) 0
  let all := all ^^^ ((lanes.length + 1) * 1927868237 % hashRange)
  let all := all ^^^ ((all >>> 11) ^^^ (all >>> 25))
  let all := (all * 69069 + 907133923) % hashRange
  if all = hashRange - 1 then 590923713 else all

theorem hashInt_natAbs_lt (n : Int) : hashInt n < hashRange := by
  have h : n.natAbs % hashPrime < hashPrime := Nat.mod_lt _ (by decide)
  unfold hashInt signedHash
  simp only [hashPrime, hashRange] at *
  split
  · omega
  · refine Nat.sub_lt (by decide) ?_
    by_cases h1 : n.natAbs % 2305843009213693951 = 1
    · simp [h1]
    · by_cases h0 : n.natAbs % 2305843009213693951 = 0
      · simp [h0]
      · simp [h1, h0]
        omega

end Exemplar.Script

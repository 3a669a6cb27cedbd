import Std.Data.HashSet
import Exemplar.Pattern.Basic

/-!
# Exemplar.Pattern.Matching — where patterns match

A search that tries one way after the other and steps back where none is left. What is to match behind a node is handed
to it as a goal, so that a node is matched together with all that follows it (`Node.search`). A search that fails tells
what it leaves behind (`Trail`): from where its last trial set out, and which rounds of a repetition have been tried in
vain, so that no round is tried from the same place twice.
-/

namespace Exemplar.Pattern

/-! ## Spots -/

/-- Where a group was last entered and where it was last left. -/
structure Bounds where
  entered : Option Nat
  departed : Option Nat
deriving DecidableEq, Repr

def Bounds.untouched : Bounds := ⟨none, none⟩

/-- A place in a text, with the bounds of each group on the way to it. -/
structure Spot where
  place : Nat
  groups : List Bounds
deriving DecidableEq, Repr

/-- What a group has matched. One that has been entered again holds nothing as long as its last end lies before. -/
def Spot.group? (s : Spot) (number : Nat) : Option (Nat × Nat) :=
  match s.groups[number]? with
  | some ⟨some i, some j⟩ => if i ≤ j then some (i, j) else none
  | _ => none

def Spot.enter (s : Spot) (number : Nat) : Spot :=
  { s with groups := s.groups.modify number fun b => { b with entered := some s.place } }

def Spot.depart (s : Spot) (number : Nat) : Spot :=
  { s with groups := s.groups.modify number fun b => { b with departed := some s.place } }

def Spot.ahead (s : Spot) (n : Nat) : Spot := { s with place := s.place + n }

/-! ## Searches -/

/-- A state of a repetition: which one, how many rounds it still has to make and may still make, and where it is. -/
structure Station where
  repetition : Nat
  needed : Nat
  left : Nat
  place : Nat
deriving DecidableEq, Hashable

/-- What a search leaves behind: the place from which the last trial set out, how many repetitions have begun, and the
stations from which there is no way on. -/
structure Trail where
  place : Nat
  begun : Nat
  deadEnds : Std.HashSet Station

/-- A trail that has its last trial at the place. -/
def Trail.at (t : Trail) (place : Nat) : Trail := { t with place := place }

/-- What a search comes to: a spot where the match ends, or nothing. -/
inductive Outcome where
  | found (s : Spot) (t : Trail)
  | failed (t : Trail)

/-- A search that starts from a spot. -/
abbrev Goal := Spot → Trail → Outcome

def Goal.reached : Goal := fun s t => .found s (t.at s.place)

/-- Where the outcome is a failure, its last trial counts as set out from the place. -/
def Outcome.failingAt (place : Nat) : Outcome → Outcome
  | .found s t => .found s t
  | .failed t => .failed (t.at place)

/-! ## Characters -/

@[inline] def passes (text : Array Char) (test : Char → Bool) (i : Nat) : Bool :=
  if h : i < text.size then test text[i] else false

/-- Goes on behind the character at hand, if it passes the test. -/
def Goal.behind (text : Array Char) (test : Char → Bool) (goal : Goal) : Goal := fun s t =>
  if passes text test s.place then goal (s.ahead 1) t else .failed t

/-- The end of the run of characters from place `i` on that pass the test, up to `limit` of them. -/
def runEnd (text : Array Char) (test : Char → Bool) (i : Nat) : (limit : Nat) → Nat
  | 0 => i
  | limit + 1 => if passes text test i then runEnd text test (i + 1) limit else i

/-- How many characters from place `i` on pass the test, up to `limit` of them. -/
def runLength (text : Array Char) (test : Char → Bool) (i limit : Nat) : Nat := runEnd text test i limit - i

/-- The length of the longest run that passes the test, where at most `most` characters may be taken. -/
def longestRun (text : Array Char) (test : Char → Bool) (i : Nat) (most : Option Nat) : Nat :=
  runLength text test i ((most.map (min · (text.size - i))).getD (text.size - i))

/-- The test that a node stands for which takes up exactly one character. -/
def Node.test? : Node → Flags → Option (Char → Bool)
  | .any, f => some fun c => f.dotAll || c != '\n'
  | .char n negated, f => some (charHolds f n negated)
  | .set items negated, f => some (setHolds f items negated)
  | .switched on off a, f => a.test? (f.change on off)
  | _, _ => none

/-- The part of a node that comes first, with the flags that hold there. -/
def Node.first? : Node → Flags → Option (Node × Flags)
  | .empty, _ => none
  | .seq a b, f =>
    match a.first? f with
    | some p => some p
    | none => b.first? f
  | .switched on off a, f => a.first? (f.change on off)
  | a, f => some (a, f)

/-- The one character with which a node has to begin. -/
def Node.literal? (a : Node) (f : Flags) : Option Nat :=
  match a.first? f with
  | some (.char n false, g) => if (g.mates n).length ≤ 1 then some n else none
  | _ => none

/-- The character at hand lets the node begin; more than one character is not looked at. -/
def Node.mayBegin (text : Array Char) (a : Node) (f : Flags) (i : Nat) : Bool :=
  match a.first? f with
  | some (.char n false, g) => 1 < (g.mates n).length || passes text (charHolds g n false) i
  | some (.set items negated, g) => g.ignoreCase || passes text (setHolds g items negated) i
  | _ => true

/-! ## Edges -/

/-- The places on either side of `i` differ in being inside a word. -/
def atWordEdge (ascii : Bool) (text : Array Char) (i : Nat) : Bool :=
  let inWord := fun (c? : Option Char) => (c?.map (CharClass.holds ascii .word)).getD false
  (i != 0 && inWord text[i - 1]?) != inWord text[i]?

/-- The condition holds at place `i`. No place in an empty text is inside or outside of a word. -/
def Edge.holds (f : Flags) (text : Array Char) (i : Nat) : Edge → Bool
  | .lineStart => i == 0 || (f.multiline && text[i - 1]? == some '\n')
  | .lineEnd => i == text.size || (i + 1 == text.size && text[i]? == some '\n') ||
      (f.multiline && text[i]? == some '\n')
  | .textStart => i == 0
  | .textEnd => i == text.size
  | .word => atWordEdge f.ascii text i
  | .notWord => !text.isEmpty && !atWordEdge f.ascii text i

/-! ## Runs of one character each

The node that is repeated takes up exactly one character, so a repetition is known by the number of its rounds. -/

/-- Tries the goal behind `least + more` characters, then behind one less and so on. Where what follows begins with
one certain character, only places with that character are tried. -/
def downwards (text : Array Char) (literal : Option Nat) (goal : Goal) (least : Nat) : (more : Nat) → Goal
  | more, s, t =>
    let hopeful := match literal with
      | some n => passes text (fun c => Text.codePoint c == n) (s.place + (least + more))
      | none => true
    if hopeful then
      let e := s.ahead (least + more)
      match goal e (t.at e.place), more with
      | .failed t, more + 1 => downwards text literal goal least more s t
      | outcome, _ => outcome
    else
      match more with
      | more + 1 => downwards text literal goal least more s t
      | 0 => .failed t

/-- Tries the goal where the search is, then behind one more character and so on, as long as the test is passed. -/
def upwards (text : Array Char) (test : Char → Bool) (goal : Goal) : (more : Nat) → Goal
  | more, s, t =>
    match goal s (t.at s.place) with
    | .found e t => .found e t
    | .failed t =>
      match more with
      | more + 1 =>
        if passes text test s.place then upwards text test goal more (s.ahead 1) (t.at s.place)
        else .failed (t.at s.place)
      | 0 => .failed (t.at s.place)

def searchRuns (text : Array Char) (test : Char → Bool) (least : Nat) (most : Option Nat) (eagerness : Eagerness)
    (literal : Option Nat) (goal : Goal) : Goal := fun s t =>
  if text.size < s.place + least then .failed t
  else
    let t := t.at s.place
    match eagerness with
    | .reluctant =>
      if runLength text test s.place least < least then .failed t
      else
        let rest := text.size - (s.place + least)
        upwards text test goal ((most.map fun n => min (n - least) rest).getD rest) (s.ahead least) t
    | .eager =>
      let n := longestRun text test s.place most
      if n < least then .failed t else downwards text literal goal least (n - least) s t
    | .unyielding =>
      let n := longestRun text test s.place most
      if n < least then .failed t else goal (s.ahead n) (t.at (s.place + n))

/-! ## Rounds of any length -/

/-- What is repeated: a search for one round, given what follows it. -/
abbrev Round := Goal → Goal

/-- Rounds of a repetition: `needed` of them are made in any case, then at most `left` further ones, and a round that
does not get on, which is seen by where the last one started, is the last one. At most `fuel` rounds are made. With
`forgetful`, stations from which there is no way on are not remembered. -/
def searchRounds (round : Round) (reluctant forgetful : Bool) (repetition : Nat) (goal : Goal) :
    (fuel : Nat) → (needed : Nat) → (left last : Option Nat) → Goal
  | 0, _, _, _, s, t => (goal s (t.at s.place)).failingAt s.place
  | fuel + 1, needed, left, last, s, t =>
    let t := t.at s.place
    if needed = 0 && (left == some 0 || last == some s.place) then (goal s t).failingAt s.place
    else
      let station : Station := ⟨repetition, needed, left.getD 0, s.place⟩
      if !forgetful && t.deadEnds.contains station then .failed t
      else
        let again : Goal :=
          if needed = 0 then
            round (searchRounds round reluctant forgetful repetition goal fuel 0 (left.map (· - 1)) (some s.place))
          else round (searchRounds round reluctant forgetful repetition goal fuel (needed - 1) left last)
        let outcome :=
          if needed = 0 then
            let (one, other) := if reluctant then (goal, again) else (again, goal)
            match one s t with
            | .failed t => other s (t.at s.place)
            | outcome => outcome
          else again s t
        match outcome with
        | .failed t =>
          .failed { t with place := s.place, deadEnds := if forgetful then t.deadEnds else t.deadEnds.insert station }
        | outcome => outcome

/-- The end of `needed` rounds, each made in the first way that there is; a round that changes nothing stands for all
that follow it. -/
def neededRounds (round : Round) : (needed : Nat) → Goal
  | 0, s, t => .found s t
  | needed + 1, s, t =>
    match round .reached s t with
    | .found e t => if e = s then .found e t else neededRounds round needed e t
    | .failed t => .failed t

/-- The end of as many rounds as there are, each made in the first way that there is. After a round that fails the
search goes on from where the last trial of that round set out. -/
def firmRounds (round : Round) : (fuel : Nat) → (left last : Option Nat) → Spot → Trail → Spot × Trail
  | 0, _, _, s, t => (s, t)
  | fuel + 1, left, last, s, t =>
    if left == some 0 || last == some s.place then (s, t)
    else
      match round .reached s t with
      | .found e t => firmRounds round fuel (left.map (· - 1)) (some s.place) e t
      | .failed t => ({ s with place := t.place }, t)

/-- Repeats a node of any kind. Beyond as many rounds as there are characters, needed ones change nothing. -/
def searchRepeated (size : Nat) (round : Round) (forgetful : Bool) (least : Nat) (most : Option Nat)
    (eagerness : Eagerness) (goal : Goal) : Goal := fun s t =>
  let left := most.map (· - least)
  let t := t.at s.place
  match eagerness with
  | .unyielding =>
    match neededRounds round least s t with
    | .found e t =>
      let (e, t) := firmRounds round (size + 2) left none e t
      goal e t
    | .failed t => .failed (t.at s.place)
  | _ =>
    let needed := min least (2 * size + 8)
    searchRounds round (eagerness == .reluctant) forgetful t.begun goal (needed + size + 2) needed left none s
      { t with begun := t.begun + 1 }

/-! ## Matching -/

/-- The text from place `i` on goes on like that from place `j` on, for `n` characters. -/
def sameRun (f : Flags) (text : Array Char) (i j n : Nat) : Bool :=
  (List.range n).all fun k =>
    match text[i + k]?, text[j + k]? with
    | some c, some d => f.lower (Text.codePoint c) == f.lower (Text.codePoint d)
    | _, _ => false

def Node.looksBack : Node → Bool
  | .again _ | .ifGroup _ _ _ => true
  | .seq a b | .alt a b => a.looksBack || b.looksBack
  | .times a _ _ _ | .group _ a | .atomic a | .look _ _ a | .switched _ _ a => a.looksBack
  | _ => false

/-- Looks for the node and, behind it, for the goal. What follows the node begins with the character `literal`, where
that is known. -/
def Node.search (text : Array Char) (forgetful : Bool) : Node → Flags → (literal : Option Nat) → Goal → Goal
  | .empty, _, _, goal, s, t => goal s t
  | .any, f, _, goal, s, t => goal.behind text (fun c => f.dotAll || c != '\n') s t
  | .char n negated, f, _, goal, s, t => goal.behind text (charHolds f n negated) s t
  | .set items negated, f, _, goal, s, t => goal.behind text (setHolds f items negated) s t
  | .edge e, f, _, goal, s, t => if e.holds f text s.place then goal s t else .failed t
  | .seq a b, f, literal, goal, s, t =>
    let next := match b.first? f with
      | some _ => b.literal? f
      | none => literal
    a.search text forgetful f next (b.search text forgetful f literal goal) s t
  | .alt a b, f, _, goal, s, t =>
    let first := if a.mayBegin text f s.place then a.search text forgetful f none goal s (t.at s.place) else .failed t
    match first with
    | .failed t => if b.mayBegin text f s.place then b.search text forgetful f none goal s (t.at s.place) else .failed t
    | outcome => outcome
  | .times a least most eagerness, f, literal, goal, s, t =>
    match a.test? f with
    | some test => searchRuns text test least most eagerness literal goal s t
    | none =>
      searchRepeated text.size (fun next => a.search text forgetful f none next) forgetful least most eagerness goal s t
  | .group number a, f, _, goal, s, t =>
    a.search text forgetful f none (fun e t => goal (e.depart number) t) (s.enter number) t
  | .atomic a, f, _, goal, s, t =>
    match a.search text forgetful f none .reached s (t.at s.place) with
    | .found e t => goal e t
    | .failed t => .failed (t.at s.place)
  | .again number, f, _, goal, s, t =>
    match s.group? number with
    | some (i, j) => if sameRun f text i s.place (j - i) then goal (s.ahead (j - i)) t else .failed t
    | none => .failed t
  | .ifGroup number yes no, f, literal, goal, s, t =>
    if (s.group? number).isSome then
      yes.search text forgetful f (if (no.first? f).isSome then none else literal) goal s t
    else no.search text forgetful f literal goal s t
  | .look behind wanted a, f, _, goal, s, t =>
    let back := behind.getD 0
    if s.place < back then if wanted then .failed t else goal s t
    else if !wanted && a == .empty then .failed t
    else
      let e := { s with place := s.place - back }
      match a.search text forgetful f none .reached e (t.at e.place), wanted with
      | .found e t, true => goal { e with place := s.place } t
      | .failed t, false => goal s t
      | .found _ t, false | .failed t, true => .failed t
  | .switched on off a, f, literal, goal, s, t => a.search text forgetful (f.change on off) literal goal s t

end Exemplar.Pattern

namespace Exemplar

/-- A pattern with the text it was written as; `widths` tells what room its groups take up, the pattern itself being one
of them. -/
structure Pattern where
  source : String
  flags : Pattern.Flags
  widths : List (Option Pattern.Width)
  root : Pattern.Node
deriving Repr

def Pattern.matchesAt (p : Pattern) (text : Array Char) (place : Nat) : Bool :=
  let start : Pattern.Spot := ⟨place, List.replicate p.widths.length .untouched⟩
  match p.root.search text p.root.looksBack p.flags none .reached start ⟨place, 0, ∅⟩ with
  | .found _ _ => true
  | .failed _ => false

/-- A match starts somewhere in the text, where enough of it is left. -/
def Pattern.foundIn (p : Pattern) (s : String) : Bool :=
  let text := s.toList.toArray
  let least := (p.root.width p.widths).least
  least ≤ text.size && (List.range (text.size + 1 - least)).any (p.matchesAt text)

end Exemplar

import Exemplar.Text.Blank
import Exemplar.Text.CaseFold
import Exemplar.Text.Classes
import Exemplar.Text.Half

/-!
# Exemplar.Pattern.Basic — regular patterns

Patterns as trees, how they compare characters, and how much of a text they take up. Groups have numbers from one on;
what a group has matched last can be asked for further on. Switches may be set for a part of a pattern only.
-/

namespace Exemplar.Pattern

/-! ## Syntax -/

/-- A class of characters that a set may name. -/
inductive CharClass where
  | digit
  | space
  | word
deriving DecidableEq, Repr

/-- One member of a set. -/
inductive SetItem where
  | code (n : Nat)
  | range (lo hi : Nat)
  | inClass (cls : CharClass) (negated : Bool)
deriving DecidableEq, Repr

/-- A condition on a place in the text. -/
inductive Edge where
  | lineStart
  | lineEnd
  | textStart
  | textEnd
  | word
  | notWord
deriving DecidableEq, Repr

/-- What a repetition does first: as many rounds as possible, as few, or as many without ever giving one back. -/
inductive Eagerness where
  | eager
  | reluctant
  | unyielding
deriving DecidableEq, Repr

/-- A switch that changes how characters and lines are compared, or how the pattern is read. -/
inductive Switch where
  | ignoreCase
  | multiline
  | dotAll
  | ascii
  | unicode
  | verbose
  | template
deriving DecidableEq, Repr

/-- A pattern. -/
inductive Node where
  | empty
  | any
  | char (n : Nat) (negated : Bool)
  | set (items : List SetItem) (negated : Bool)
  | edge (e : Edge)
  | seq (a b : Node)
  | alt (a b : Node)
  | times (a : Node) (least : Nat) (most : Option Nat) (eagerness : Eagerness)
  | group (number : Nat) (a : Node)
  /-- The first way to match, and no other. -/
  | atomic (a : Node)
  /-- What a group has matched. -/
  | again (number : Nat)
  /-- One of two, by whether a group has matched. -/
  | ifGroup (number : Nat) (yes no : Node)
  /-- What comes next, or what comes before at that distance, matches, or does not. -/
  | look (behind : Option Nat) (wanted : Bool) (a : Node)
  | switched (on off : List Switch) (a : Node)
deriving DecidableEq, Repr

def Node.ofList : List Node → Node
  | [] => .empty
  | [a] => a
  | a :: r => .seq a (Node.ofList r)

def Node.anyOf : List (List Node) → Node
  | [] => .empty
  | [b] => .ofList b
  | b :: r => .alt (.ofList b) (Node.anyOf r)

/-! ## Flags -/

/-- How characters and lines are compared, and how the pattern is read. -/
structure Flags where
  ignoreCase : Bool
  multiline : Bool
  dotAll : Bool
  ascii : Bool
  verbose : Bool
deriving DecidableEq, Repr

/-- The flags after a switch has been turned on or off. -/
def Flags.turn (on : Bool) (f : Flags) : Switch → Flags
  | .ignoreCase => { f with ignoreCase := on }
  | .multiline => { f with multiline := on }
  | .dotAll => { f with dotAll := on }
  | .ascii => { f with ascii := on }
  | .unicode => { f with ascii := !on }
  | .verbose => { f with verbose := on }
  | .template => f

/-- The flags after several switches have been turned on and others off. -/
def Flags.change (f : Flags) (on off : List Switch) : Flags :=
  off.foldl (Flags.turn false) (on.foldl (Flags.turn true) f)

/-! ## Characters -/

/-- The code point is that of an ASCII character. -/
def isAscii (c : Char) : Bool := c.toNat < 128

def CharClass.holds (ascii : Bool) (cls : CharClass) (c : Char) : Bool :=
  match cls with
  | .digit => if ascii then c.isDigit else Text.isDecimalDigit c
  | .space => if ascii then c == ' ' || ('\t' ≤ c && c ≤ '\r') else Text.isBlank c
  | .word => (!ascii || isAscii c) && Text.isWordChar c

/-- The lower-case letter of a code point, as far as case plays no part. -/
def Flags.lower (f : Flags) (n : Nat) : Nat :=
  if !f.ignoreCase then n
  else if f.ascii then (if 65 ≤ n ∧ n ≤ 90 then n + 32 else n)
  else Text.lowerCode n

def Flags.mates (f : Flags) (n : Nat) : List Nat :=
  if !f.ignoreCase then [n]
  else if f.ascii then
    let l := f.lower n
    if 97 ≤ l ∧ l ≤ 122 then [l, l - 32] else [n]
  else Text.caseMates n

/-- The first code point for which sets have no map of characters. -/
def unmapped : Nat := 0x10000

/-- The code points that a range looks for in place of `n`, which counts as all of `mates`. One that goes beyond the map
knows the case of letters outside of ASCII as well. -/
def Flags.rangeMates (f : Flags) (n : Nat) (mates : List Nat) (hi : Nat) : List Nat :=
  if f.ignoreCase && f.ascii && unmapped ≤ hi then mates ++ Text.upperCodes n else mates

/-- The code point `n`, which counts as all of `mates`, belongs to the member of a set. Without regard to case, sets
hold code points beyond their map as they are written, and look for the lower-case letter. -/
def SetItem.holds (f : Flags) (n : Nat) (mates : List Nat) (c : Char) : SetItem → Bool
  | .code m => if f.ignoreCase && unmapped ≤ m then f.lower n == m else mates.contains m
  | .range lo hi => (f.rangeMates n mates hi).any fun m => lo ≤ m && m ≤ hi
  | .inClass cls negated => cls.holds f.ascii c != negated

/-- The character belongs to the member of a set, case playing a part. -/
def SetItem.holdsExactly (ascii : Bool) (c : Char) : SetItem → Bool
  | .code m => Text.codePoint c == m
  | .range lo hi => lo ≤ Text.codePoint c && Text.codePoint c ≤ hi
  | .inClass cls negated => cls.holds ascii c != negated

def setHolds (f : Flags) (items : List SetItem) (negated : Bool) (c : Char) : Bool :=
  if f.ignoreCase then items.any (SetItem.holds f (Text.codePoint c) (f.mates (Text.codePoint c)) c) != negated
  else items.any (SetItem.holdsExactly f.ascii c) != negated

/-- The character is the one with that code point. -/
def charHolds (f : Flags) (n : Nat) (negated : Bool) (c : Char) : Bool :=
  if f.ignoreCase then (f.mates (Text.codePoint c)).contains n != negated else (Text.codePoint c == n) != negated

/-! ## Widths -/

/-- The least and the greatest number of characters that something takes up. -/
structure Width where
  least : Nat
  most : Nat
deriving DecidableEq, Repr

def boundless : Nat := 18446744073709551616

namespace Width

def zero : Width := ⟨0, 0⟩

def one : Width := ⟨1, 1⟩

def plus (a b : Width) : Width := ⟨min (a.least + b.least) boundless, min (a.most + b.most) boundless⟩

def either (a b : Width) : Width := ⟨min a.least b.least, max a.most b.most⟩

def times (a : Width) (least : Nat) (most : Option Nat) : Width :=
  let greatest := match most with
    | some n => a.most * n
    | none => if a.most = 0 then 0 else boundless
  ⟨min (a.least * least) boundless, min greatest boundless⟩

end Width

/-- The width of a node; `groups` tells that of groups, as far as they are known. -/
def Node.width (groups : List (Option Width)) : Node → Width
  | .empty | .edge _ | .look _ _ _ => .zero
  | .any | .char _ _ | .set _ _ => .one
  | .seq a b => (a.width groups).plus (b.width groups)
  | .alt a b => (a.width groups).either (b.width groups)
  | .times a least most _ => (a.width groups).times least most
  | .group _ a | .atomic a | .switched _ _ a => a.width groups
  | .again n => (groups[n]?.bind id).getD .zero
  | .ifGroup _ yes no => (yes.width groups).either (no.width groups)

end Exemplar.Pattern

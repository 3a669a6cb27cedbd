import Exemplar.Pattern.Basic
import Exemplar.Text.Quoted

/-!
# Exemplar.Pattern.Source — what a pattern is read from

The text of a pattern is cut into tokens, a backslash forming one token with the character behind it. Reading goes from
left to right and stops at the first fault, which carries the place where it was noticed. A backslash with nothing
behind it is noticed as soon as the token before it has been taken.
-/

namespace Exemplar.Pattern

/-! ## Faults -/

/-- What is wrong with the text of a pattern. -/
inductive FaultCause where
  | danglingEscape
  | badEscape (text : String)
  | incompleteEscape (text : String)
  | largeOctal (text : String)
  | missingBrace
  | unknownCharacter (name : String)
  | badReference (number : Nat)
  | openReference
  | innerReference
  | unterminatedSet
  | badRange (lo hi : String)
  | nothingToRepeat
  | multipleRepeat
  | leastAboveMost
  | tooManyRounds
  | unterminatedGroup
  | unterminatedComment
  | unbalancedGroup
  | unexpectedEnd
  | unknownExtension (text : String)
  | missingName (what : String)
  | unterminatedName (close : Char)
  | badGroupName (name : String)
  | unknownGroupName (name : String)
  | repeatedGroupName (name : String) (number former : Nat)
  | badGroupNumber
  | thirdBranch
  | lateFlags
  | badFlags (text : String)
  | unevenLook
  | farLook
  | mixedAlphabets
  /-- Templates hold no repetitions. -/
  | repeatInTemplate (eagerness : Eagerness)
deriving DecidableEq, Repr

/-- A fault and the place where it was noticed; some faults are of the whole pattern. -/
structure Fault where
  cause : FaultCause
  place : Option Nat
deriving DecidableEq, Repr

/-- What a repetition is called among the operators of patterns. -/
def Eagerness.operator : Eagerness → String
  | .eager => "MAX_REPEAT"
  | .reluctant => "MIN_REPEAT"
  | .unyielding => "POSSESSIVE_REPEAT"

def FaultCause.message : FaultCause → String
  | .danglingEscape => "bad escape (end of pattern)"
  | .badEscape text => "bad escape " ++ text
  | .incompleteEscape text => "incomplete escape " ++ text
  | .largeOctal text => "octal escape value " ++ text ++ " outside of range 0-0o377"
  | .missingBrace => "missing \x7b"
  | .unknownCharacter name => "undefined character name " ++ Text.quoted name
  | .badReference number => "invalid group reference " ++ toString number
  | .openReference => "cannot refer to an open group"
  | .innerReference => "cannot refer to group defined in the same lookbehind subpattern"
  | .unterminatedSet => "unterminated character set"
  | .badRange lo hi => "bad character range " ++ lo ++ "-" ++ hi
  | .nothingToRepeat => "nothing to repeat"
  | .multipleRepeat => "multiple repeat"
  | .leastAboveMost => "min repeat greater than max repeat"
  | .tooManyRounds => "the repetition number is too large"
  | .unterminatedGroup => "missing ), unterminated subpattern"
  | .unterminatedComment => "missing ), unterminated comment"
  | .unbalancedGroup => "unbalanced parenthesis"
  | .unexpectedEnd => "unexpected end of pattern"
  | .unknownExtension text => "unknown extension " ++ text
  | .missingName what => "missing " ++ what
  | .unterminatedName close => "missing " ++ String.singleton close ++ ", unterminated name"
  | .badGroupName name => "bad character in group name " ++ Text.quoted name
  | .unknownGroupName name => "unknown group name " ++ Text.quoted name
  | .repeatedGroupName name number former =>
    "redefinition of group name " ++ Text.quoted name ++ " as group " ++ toString number ++ "; was group " ++
      toString former
  | .badGroupNumber => "bad group number"
  | .thirdBranch => "conditional backref with more than two branches"
  | .lateFlags => "global flags not at the start of the expression"
  | .badFlags text => text
  | .unevenLook => "look-behind requires fixed-width pattern"
  | .farLook => "looks too much behind"
  | .mixedAlphabets => "ASCII and UNICODE flags are incompatible"
  | .repeatInTemplate eagerness => "internal: unsupported template operator " ++ eagerness.operator

/-- The class of errors that the cause is told by. -/
def FaultCause.errorName : FaultCause → String
  | .tooManyRounds => "OverflowError"
  | .mixedAlphabets => "ValueError"
  | _ => "error"

/-- The fault in words; where the pattern has several lines, the place is given by line and column as well. -/
def Fault.message (source : String) (f : Fault) : String :=
  match f.place with
  | none => f.cause.message
  | some place =>
    let before := source.toList.take place
    let plain := f.cause.message ++ " at position " ++ toString place
    if source.toList.contains '\n' then
      let line := before.count '\n' + 1
      let column := (before.reverse.takeWhile (· != '\n')).length + 1
      plain ++ " (line " ++ toString line ++ ", column " ++ toString column ++ ")"
    else plain

/-! ## Tokens -/

/-- A character, or a backslash with the character behind it, and its place. -/
structure Token where
  place : Nat
  chars : List Char
deriving DecidableEq, Repr

def Token.text (t : Token) : String := String.ofList t.chars

/-- Cuts the characters into tokens, the first one being at place `i`; tells also whether a lone backslash ends them. -/
def tokenize (i : Nat) : List Char → List Token × Bool
  | [] => ([], false)
  | '\\' :: [] => ([], true)
  | '\\' :: c :: r => let (ts, d) := tokenize (i + 2) r; (⟨i, ['\\', c]⟩ :: ts, d)
  | c :: r => let (ts, d) := tokenize (i + 1) r; (⟨i, [c]⟩ :: ts, d)

/-! ## Reading -/

/-- How far reading has come: the tokens that are left, the place of the end, whether a lone backslash ends the pattern,
and what has been learned of the pattern. -/
structure Progress where
  tokens : List Token
  size : Nat
  dangling : Bool
  flags : Flags
  switches : List Switch
  /-- The widths of the groups, those of open ones being unknown. -/
  widths : List (Option Width)
  names : List (String × Nat)
  /-- The number of groups before the outermost look backward that reading is inside of. -/
  behind : Option Nat
  /-- The groups that conditions ask for by number, with the places where they do. -/
  asked : List (Nat × Nat)
  /-- The first fault of a look backward, which counts only if there are no others. -/
  lookFault : Option FaultCause

/-- A step of reading. -/
abbrev Reader (α : Type) : Type := StateT Progress (Except Fault) α

namespace Reader

def place : Reader Nat := do
  let p ← get
  return (p.tokens.head?.map (·.place)).getD p.size

/-- Stops at a fault so many characters back from the next token. -/
def fail {α : Type} (cause : FaultCause) (back : Nat) : Reader α := do
  let i ← place
  throw ⟨cause, some (i - back)⟩

/-- Stops at a fault that was noticed at a place. -/
def failAt {α : Type} (cause : FaultCause) (i : Nat) : Reader α := throw ⟨cause, some i⟩

/-- Refuses a pattern of which only a lone backslash is left. -/
def check : Reader Unit := do
  let p ← get
  if p.tokens.isEmpty && p.dangling then failAt .danglingEscape (p.size - 1) else pure ()

/-- The next token, which is not taken. -/
def peek : Reader (Option Token) := do
  let p ← get
  return p.tokens.head?

def next : Reader (Option Token) := do
  let p ← get
  match p.tokens with
  | [] => return none
  | t :: r => do
    set { p with tokens := r }
    check
    return some t

def startsWith (c : Char) : Reader Bool := do
  let t ← peek
  return (t.map fun t => t.chars == [c]).getD false

def accept (c : Char) : Reader Bool := do
  let found ← startsWith c
  if found then
    let _ ← next
    return true
  else return false

/-- Takes up to `n` characters that pass the test. -/
def takeWhile (test : Char → Bool) : Nat → Reader (List Char)
  | 0 => return []
  | n + 1 => do
    match ← peek with
    | some ⟨_, [c]⟩ =>
      if test c then do
        let _ ← next
        let r ← takeWhile test n
        return c :: r
      else return []
    | _ => return []

def remaining : Reader Nat := do
  let p ← get
  return p.tokens.length

/-- The characters of a name up to the one that closes it, out of at most `n` tokens. -/
def untilClosed (close : Char) (what : String) : Nat → List Char → Reader (List Char)
  | 0, _ => fail (.missingName what) 0
  | n + 1, name => do
    match ← next with
    | none => if name.isEmpty then fail (.missingName what) 0 else fail (.unterminatedName close) name.length
    | some t =>
      if t.chars == [close] then
        if name.isEmpty then fail (.missingName what) 1 else return name
      else untilClosed close what n (name ++ t.chars)

def name (close : Char) (what : String) : Reader String := do
  let n ← remaining
  let cs ← untilClosed close what (n + 1) []
  return String.ofList cs

end Reader

def Progress.start (flags : Flags) (text : String) : Progress :=
  let (tokens, dangling) := tokenize 0 text.toList
  ⟨tokens, text.length, dangling, flags, [], [none], [], none, [], none⟩

end Exemplar.Pattern

import Exemplar.Decimal.Numeral
import Exemplar.Pattern.Matching
import Exemplar.Pattern.Source
import Exemplar.Text.CharacterName
import Exemplar.Text.Identifier

/-!
# Exemplar.Pattern.Parser — reading a pattern

Escapes, sets, repetitions, groups and flags, each read by a step of its own. Branches that begin alike share their
beginning, and branches of one character each become a set.
-/

namespace Exemplar.Pattern

open Reader

/-! ## Digits -/

def hexDigit? (c : Char) : Option Nat :=
  if '0' ≤ c ∧ c ≤ '9' then some (c.toNat - 48)
  else if 'a' ≤ c ∧ c ≤ 'f' then some (c.toNat - 87)
  else if 'A' ≤ c ∧ c ≤ 'F' then some (c.toNat - 55)
  else none

/-- The number that the digits write in the base. -/
def ofDigits (base : Nat) (ds : List Char) : Nat :=
  ds.foldl (fun n c => n * base + (hexDigit? c).getD 0) 0

def isOctal (c : Char) : Bool := '0' ≤ c && c ≤ '7'

/-- A letter of the Latin alphabet without marks. -/
def isLatinLetter (c : Char) : Bool :=
  ('a' ≤ c && c ≤ 'z') || ('A' ≤ c && c ≤ 'Z')

/-! ## Escapes -/

/-- The class that a letter behind a backslash names, and whether it is negated. -/
def classOf? : Char → Option (CharClass × Bool)
  | 'd' => some (.digit, false)
  | 'D' => some (.digit, true)
  | 's' => some (.space, false)
  | 'S' => some (.space, true)
  | 'w' => some (.word, false)
  | 'W' => some (.word, true)
  | _ => none

/-- The control character that a letter behind a backslash stands for. -/
def controlOf? : Char → Option Nat
  | 'a' => some 7
  | 'b' => some 8
  | 'f' => some 12
  | 'n' => some 10
  | 'r' => some 13
  | 't' => some 9
  | 'v' => some 11
  | _ => none

/-- The condition that a letter behind a backslash names outside of sets. -/
def edgeOf? : Char → Option Edge
  | 'A' => some .textStart
  | 'Z' => some .textEnd
  | 'b' => some .word
  | 'B' => some .notWord
  | _ => none

/-- The number of hexadecimal digits that belong to an escape with that letter. -/
def hexWidth? : Char → Option Nat
  | 'x' => some 2
  | 'u' => some 4
  | 'U' => some 8
  | _ => none

def lastCode : Nat := 0x10FFFF

/-- The greatest number that an escape of base eight may write. -/
def lastOctal : Nat := 255

/-- Stops at an escape, which has just been taken. -/
def failEscape {α : Type} (cause : String → FaultCause) (cs : List Char) : Reader α :=
  fail (cause (String.ofList cs)) cs.length

/-- The code point of an escape with so many hexadecimal digits. -/
def hexEscape (c : Char) (width : Nat) : Reader Nat := do
  let ds ← Reader.takeWhile (fun d => (hexDigit? d).isSome) width
  let cs := '\\' :: c :: ds
  if ds.length ≠ width then failEscape .incompleteEscape cs
  else if lastCode < ofDigits 16 ds then failEscape .badEscape cs
  else return ofDigits 16 ds

/-- The code point of an escape with digits of base eight. -/
def octalEscape (ds : List Char) : Reader Nat :=
  if lastOctal < ofDigits 8 ds then failEscape .largeOctal ('\\' :: ds) else return ofDigits 8 ds

def namedEscape : Reader Nat := do
  let braced ← accept '\x7b'
  if braced then
    let name ← Reader.name '\x7d' "character name"
    match Text.CharacterName.named? name with
    | some c => return Text.codePoint c
    | none => fail (.unknownCharacter name) (name.length + 4)
  else fail .missingBrace 0

/-- The code point of an escape that no digits belong to. -/
def plainEscape (c : Char) : Reader Nat :=
  match hexWidth? c with
  | some width => hexEscape c width
  | none =>
    if c == 'N' then namedEscape
    else if isLatinLetter c || c.isDigit then failEscape .badEscape ['\\', c]
    else return Text.codePoint c

def escapedCode (c : Char) : Reader Nat :=
  match controlOf? c with
  | some n => return n
  | none =>
    if isOctal c then do
      let ds ← Reader.takeWhile isOctal 2
      octalEscape (c :: ds)
    else plainEscape c

/-! ## Groups that have been read -/

def isClosed (number : Nat) : Reader Bool := do
  let p ← get
  return (p.widths[number]?.bind id).isSome

/-- Inside of a look backward, groups that begin there cannot be asked for. -/
def checkBehind (number : Nat) : Reader Unit := do
  let p ← get
  match p.behind with
  | none => pure ()
  | some before => do
    let closed ← isClosed number
    if !closed then fail .openReference 0
    else if before ≤ number then fail .innerReference 0
    else pure ()

/-- What a group has matched, the group being referred to in so many characters. -/
def reference (number back : Nat) : Reader Node := do
  let closed ← isClosed number
  if closed then
    checkBehind number
    return .again number
  else fail .openReference back

/-- The group of that name, which has just been taken with one character behind it. -/
def groupNamed (name : String) : Reader Nat := do
  let p ← get
  match p.names.find? (·.1 == name) with
  | some g => return g.2
  | none => fail (.unknownGroupName name) (name.length + 1)

def checkName (name : String) : Reader Unit :=
  if Text.isIdentifier name then pure () else fail (.badGroupName name) (name.length + 1)

/-- An escape that starts with a digit other than zero: three of base eight, or the number of a group. -/
def numberEscape (c : Char) : Reader Node := do
  let more ← Reader.takeWhile Char.isDigit 1
  let third ← if isOctal c && !more.isEmpty && more.all isOctal then Reader.takeWhile isOctal 1 else pure []
  let ds := c :: more ++ third
  if third.isEmpty then
    let number := ofDigits 10 ds
    let p ← get
    if number < p.widths.length then reference number (ds.length + 1) else fail (.badReference number) ds.length
  else do
    let n ← octalEscape ds
    return .char n false

def escapedNode (c : Char) : Reader Node :=
  match edgeOf? c, classOf? c, controlOf? c with
  | some e, _, _ => return .edge e
  | none, some (cls, negated), _ => return .set [.inClass cls negated] false
  | none, none, some n => return .char n false
  | none, none, none =>
    if c == '0' then do
      let ds ← Reader.takeWhile isOctal 2
      return .char (ofDigits 8 ds) false
    else if c.isDigit then numberEscape c
    else do
      let n ← plainEscape c
      return .char n false

/-! ## Sets -/

/-- A member of a set that starts with the token. -/
def setMember (t : Token) : Reader SetItem :=
  match t.chars with
  | ['\\', c] =>
    match controlOf? c, classOf? c with
    | none, some (cls, negated) => return .inClass cls negated
    | _, _ => do
      let n ← escapedCode c
      return .code n
  | c :: _ => return .code (Text.codePoint c)
  | [] => return .code 0

/-- The next token, without which a set is not complete. -/
def tokenOfSet (start : Nat) : Reader Token := do
  match ← next with
  | some t => return t
  | none => failAt .unterminatedSet start

/-- The members of a set up to its closing bracket; `start` is the place of its opening one. -/
def setMembers (start : Nat) : Nat → List SetItem → Reader (List SetItem)
  | 0, _ => failAt .unterminatedSet start
  | n + 1, items => do
    let t ← tokenOfSet start
    if t.chars == [']'] && !items.isEmpty then return items
    let lo ← setMember t
    let isRange ← accept '-'
    if !isRange then setMembers start n (items ++ [lo])
    else
      let u ← tokenOfSet start
      if u.chars == [']'] then return items ++ [lo, .code '-'.toNat]
      let hi ← setMember u
      let bad := fail (.badRange t.text u.text) (t.chars.length + 1 + u.chars.length)
      match lo, hi with
      | .code a, .code b => if b < a then bad else setMembers start n (items ++ [.range a b])
      | _, _ => bad

/-- A set with these members; one character alone stands for itself. -/
def setNode (items : List SetItem) (negated : Bool) : Node :=
  match items.eraseDups with
  | [.code n] => .char n negated
  | items => .set items negated

/-- A set behind its opening bracket at place `start`. -/
def readSet (start : Nat) : Reader Node := do
  let negated ← accept '^'
  let n ← remaining
  let items ← setMembers start (n + 1) []
  return setNode items negated

/-! ## Repetition -/

/-- The first number of rounds that is too large. -/
def roundsLimit : Nat := 4294967295

def checkRounds (n : Nat) : Reader Nat :=
  if n < roundsLimit then return n else throw ⟨.tooManyRounds, none⟩

/-- The numbers in braces, if what follows the opening one has that form; otherwise nothing is taken. -/
def readBraces : Reader (Option (List Char × List Char)) := do
  let before ← get
  let n ← remaining
  let lo ← Reader.takeWhile Char.isDigit n
  let comma ← accept ','
  let hi ← if comma then Reader.takeWhile Char.isDigit n else pure lo
  let closed ← accept '\x7d'
  if closed then return some (lo, hi)
  else
    set before
    return none

/-- How often a repetition sign asks for the item before it; `none` when the sign is a plain brace. -/
def readTimes (c : Char) : Reader (Option (Nat × Option Nat)) :=
  match c with
  | '?' => return some (0, some 1)
  | '*' => return some (0, none)
  | '+' => return some (1, none)
  | _ => do
    let here ← place
    let empty ← startsWith '\x7d'
    if empty then return none
    match ← readBraces with
    | none => return none
    | some (lo, hi) =>
      let least ← checkRounds (ofDigits 10 lo)
      if hi.isEmpty then return some (least, none)
      else
        let most ← checkRounds (ofDigits 10 hi)
        if most < least then failAt .leastAboveMost here else return some (least, some most)

def readEagerness : Reader Eagerness := do
  let reluctant ← accept '?'
  if reluctant then return .reluctant
  let unyielding ← accept '+'
  return if unyielding then .unyielding else .eager

/-- A part of a branch: a node, or the nodes of a group without a number, which are not taken apart before the branch
is complete. -/
inductive Item where
  | single (a : Node)
  | bundle (as : List Node)

def Item.nodes : Item → List Node
  | .single a => [a]
  | .bundle as => as

/-- The nodes of items that come with the last one first. -/
def nodesOf (items : List Item) : List Node := items.reverse.flatMap Item.nodes

/-- The items with the last one repeated; `start` is the place of the sign. -/
def repeatLast (start least : Nat) (most : Option Nat) (items : List Item) : Reader (List Item) := do
  match items with
  | [] | .single (.edge _) :: _ => failAt .nothingToRepeat start
  | .single (.times _ _ _ _) :: _ => failAt .multipleRepeat start
  | item :: before => do
    let eagerness ← readEagerness
    return .single (.times (.ofList item.nodes) least most eagerness) :: before

/-! ## Flags -/

def switchOf? : Char → Option Switch
  | 'i' => some .ignoreCase
  | 'm' => some .multiline
  | 's' => some .dotAll
  | 'x' => some .verbose
  | 'a' => some .ascii
  | 't' => some .template
  | 'u' => some .unicode
  | _ => none

/-- The letter of the switch for the rules of a place, which only patterns of bytes have. -/
def placeLetter : Char := 'L'

def Switch.isAlphabet (s : Switch) : Bool := s = .ascii || s = .unicode

def failFlag {α : Type} (t : Token) (otherwise : String) : Reader α :=
  let isLetter := match t.chars with
    | [c] => isLatinLetter c || (!isAscii c && Text.isWordChar c && !Text.isDecimalDigit c)
    | _ => false
  fail (.badFlags (if isLetter then "unknown flag" else otherwise)) t.chars.length

/-- The token of a flag, or of a sign that may stand in its place. -/
def flagOrSign (signs : List Char) (otherwise : String) : Reader Char := do
  match ← next with
  | none => fail (.badFlags otherwise) 0
  | some t =>
    match t.chars with
    | [c] => if signs.contains c || (switchOf? c).isSome || c == placeLetter then return c else failFlag t otherwise
    | _ => failFlag t otherwise

/-- The switches to turn on, the first one having the letter `c`, with the sign that ends them. -/
def switchesOn : Nat → List Switch → Char → Reader (List Switch × Char)
  | 0, on, c => return (on, c)
  | n + 1, on, c =>
    match switchOf? c with
    | none => fail (.badFlags "bad inline flags: cannot use 'L' flag with a str pattern") 0
    | some s =>
      if s.isAlphabet && on.any (fun r => r.isAlphabet && r != s) then
        fail (.badFlags "bad inline flags: flags 'a', 'u' and 'L' are incompatible") 0
      else do
        let d ← flagOrSign [')', '-', ':'] "missing -, : or )"
        if [')', '-', ':'].contains d then return (on ++ [s], d) else switchesOn n (on ++ [s]) d

/-- The switches to turn off, the first one having the letter `c`. -/
def switchesOff : Nat → List Switch → Char → Reader (List Switch)
  | 0, off, _ => return off
  | n + 1, off, c =>
    match (switchOf? c).filter fun s => !s.isAlphabet with
    | none => fail (.badFlags "bad inline flags: cannot turn off flags 'a', 'u' and 'L'") 0
    | some s => do
      let d ← flagOrSign [':'] "missing :"
      if d == ':' then return off ++ [s] else switchesOff n (off ++ [s]) d

/-- Switches for the group that follows, those to turn on and those to turn off; `none` if they are for the whole
pattern, of which a note is made. The first of them has the letter `c`, which may be the sign for turning off. -/
def readFlags (c : Char) : Reader (Option (List Switch × List Switch)) := do
  let n ← remaining
  let (on, sign) ← if c == '-' then pure ([], c) else switchesOn (n + 1) [] c
  if sign == ')' then
    modify fun p => { p with flags := p.flags.change on [], switches := p.switches ++ on }
    return none
  else if on.contains .template then fail (.badFlags "bad inline flags: cannot turn on global flag") 1
  else do
    let off ← if sign == '-' then do
        let d ← flagOrSign [] "missing flag"
        switchesOff (n + 1) [] d
      else pure []
    if off.contains .template then fail (.badFlags "bad inline flags: cannot turn off global flag") 1
    else if on.any off.contains then fail (.badFlags "bad inline flags: flag turned on and off") 1
    else return some (on, off)

/-! ## Groups -/

/-- What an opening parenthesis begins. -/
inductive Opening where
  | group (number : Nat)
  | plain
  | atomic
  | switched (on off : List Switch)
  | look (backward wanted : Bool)
  | ifGroup (number : Nat)
  /-- A group that is complete already. -/
  | done (a : Node)
  /-- A comment, or flags for the whole pattern. -/
  | nothing

/-- Opens a group with a number; `name` is what it is called besides. -/
def openGroup (name : Option String) : Reader Opening := do
  let p ← get
  let number := p.widths.length
  match name with
  | none => pure ()
  | some name =>
    match p.names.find? (·.1 == name) with
    | some former => fail (.repeatedGroupName name number former.2) (name.length + 1)
    | none => modify fun p => { p with names := p.names ++ [(name, number)] }
  modify fun p => { p with widths := p.widths ++ [none] }
  return .group number

def needed : Reader Token := do
  match ← next with
  | some t => return t
  | none => fail .unexpectedEnd 0

def failExtension {α : Type} (before : String) (t : Token) : Reader α :=
  fail (.unknownExtension (before ++ t.text)) (before.length + t.chars.length)

/-- A group with a name, or what such a group has matched. -/
def namedOpening : Reader Opening := do
  let defines ← accept '<'
  if defines then
    let name ← Reader.name '>' "group name"
    checkName name
    openGroup (some name)
  else
    let asks ← accept '='
    if asks then
      let name ← Reader.name ')' "group name"
      checkName name
      let number ← groupNamed name
      let a ← reference number (name.length + 1)
      return .done a
    else
      let t ← needed
      failExtension "?P" t

/-- A comment, up to its closing parenthesis; `start` is the place of its opening one. -/
def skipComment (start : Nat) : Nat → Reader Opening
  | 0 => failAt .unterminatedComment start
  | n + 1 => do
    match ← next with
    | none => failAt .unterminatedComment start
    | some t => if t.chars == [')'] then return .nothing else skipComment start n

def backwardOpening : Reader Opening := do
  let t ← needed
  match t.chars with
  | ['='] => return .look true true
  | ['!'] => return .look true false
  | _ => failExtension "?<" t

/-- The first number of a group that no pattern can have. -/
def groupsLimit : Nat := 1073741823

/-- The number of the group that a condition asks for. -/
def conditionNumber (name : String) : Reader Nat := do
  let back := name.length + 1
  match Decimal.Numeral.readInt? 10 (Decimal.Numeral.plainNumeral name.toList) with
  | none => fail (.badGroupName name) back
  | some n =>
    if n < 0 then fail (.badGroupName name) back
    else if n = 0 then fail .badGroupNumber back
    else if groupsLimit ≤ n then fail (.badReference n.toNat) back
    else
      let here ← place
      modify fun p => { p with asked := p.asked ++ [(n.toNat, here - back)] }
      return n.toNat

def conditionOpening : Reader Opening := do
  let name ← Reader.name ')' "group name"
  let number ← if Text.isIdentifier name then groupNamed name else conditionNumber name
  checkBehind number
  return .ifGroup number

/-- Flags; those for the whole pattern have to come first in it, at place `start`. -/
def flagsOpening (start : Nat) (c : Char) (isFirst : Bool) : Reader Opening := do
  match ← readFlags c with
  | some (on, off) => return .switched on off
  | none => if isFirst then return .nothing else failAt .lateFlags start

/-- What an opening parenthesis at place `start` begins; `isFirst` tells that nothing comes before it. -/
def opening (start : Nat) (isFirst : Bool) : Reader Opening := do
  let special ← accept '?'
  if !special then openGroup none
  else
    let t ← needed
    match t.chars with
    | ['P'] => namedOpening
    | [':'] => return .plain
    | ['#'] => do
      let n ← remaining
      skipComment start (n + 1)
    | ['='] => return .look false true
    | ['!'] => return .look false false
    | ['<'] => backwardOpening
    | ['('] => conditionOpening
    | ['>'] => return .atomic
    | [c] =>
      if c == '-' || c == placeLetter || (switchOf? c).isSome then flagsOpening start c isFirst
      else failExtension "?" t
    | _ => failExtension "?" t

/-! ## Branches -/

/-- The character that all branches begin with, if they do: a node that matches by itself. -/
def commonHead? : List (List Node) → Option Node
  | (a :: _) :: bs =>
    let isLeaf := match a with
      | .any | .char _ _ | .set _ _ | .edge _ => true
      | _ => false
    if isLeaf && bs.all fun b => b.head? == some a then some a else none
  | _ => none

/-- What the branches begin with alike, and what is left of them; `n` bounds the length of the former. -/
def shareHeads : Nat → List (List Node) → List Node × List (List Node)
  | 0, bs => ([], bs)
  | n + 1, bs =>
    match commonHead? bs with
    | some a => let (as, rest) := shareHeads n (bs.map List.tail); (a :: as, rest)
    | none => ([], bs)

/-- The members of the set that a branch of one character is. -/
def asSet? : List Node → Option (List SetItem)
  | [.char n false] => some [.code n]
  | [.set items false] => some items
  | _ => none

def joinBranches : List (List Node) → List Node
  | [b] => b
  | bs =>
    let (shared, rest) := shareHeads bs.flatten.length bs
    match rest.mapM asSet? with
    | some sets => shared ++ [.set sets.flatten.eraseDups false]
    | none => shared ++ [.anyOf rest]

/-- Takes the closing parenthesis of a group that was opened at place `start`. -/
def closeGroup (start : Nat) : Reader Unit := do
  let closed ← accept ')'
  if closed then pure () else failAt .unterminatedGroup start

def noteWidth (number : Nat) (a : Node) : Reader Unit :=
  modify fun p => { p with widths := p.widths.set number (some (a.width p.widths)) }

/-- The distance at which a look backward begins; a fault is only noted. -/
def lookDistance (a : Node) : Reader Nat := do
  let p ← get
  let w := a.width p.widths
  let fault : Option FaultCause :=
    if roundsLimit < w.least then some .farLook else if w.least ≠ w.most then some .unevenLook else none
  set { p with lookFault := p.lookFault.or fault }
  return w.least

/-- A blank, which does not count in a pattern with comments. -/
def isIdleBlank (t : Token) : Bool :=
  match t.chars with
  | [c] => c == ' ' || ('\t' ≤ c && c ≤ '\r')
  | _ => false

def skipLine : Nat → Reader Unit
  | 0 => pure ()
  | n + 1 => do
    match ← next with
    | none => pure ()
    | some t => if t.chars == ['\n'] then pure () else skipLine n

/-- What a token outside of groups, sets and repetitions stands for. -/
def plainNode (t : Token) : Reader Node :=
  match t.chars with
  | ['\\', c] => escapedNode c
  | ['['] => readSet t.place
  | ['.'] => return .any
  | ['^'] => return .edge .lineStart
  | ['$'] => return .edge .lineEnd
  | c :: _ => return .char (Text.codePoint c) false
  | [] => return .empty

def isRepeatSign (t : Token) : Bool :=
  match t.chars with
  | [c] => ['*', '+', '?', '\x7b'].contains c
  | _ => false

/-- A repetition of the last item, or a plain brace. -/
def readRepeat (t : Token) (items : List Item) : Reader (List Item) := do
  let c := t.chars.head?.getD '*'
  match ← readTimes c with
  | none => return .single (.char (Text.codePoint c) false) :: items
  | some (least, most) => repeatLast t.place least most items

/-- How branches are read: with blanks and comments in them or not, inside of a group or not. -/
structure Manner where
  verbose : Bool
  nested : Bool

mutual

/-- The branches of a group, up to its closing parenthesis or the end; `bs` holds those read before. -/
def branches (n : Nat) (m : Manner) (bs : List (List Node)) : Reader (List Node) :=
  match n with
  | 0 => fail .unexpectedEnd 0
  | n + 1 => do
    let b ← branch n m (!m.nested && bs.isEmpty) []
    let more ← accept '|'
    if more then do
      let p ← get
      branches n (if m.nested then m else { m with verbose := p.flags.verbose }) (bs ++ [b])
    else return joinBranches (bs ++ [b])

/-- One branch; the items read so far come with the last one first. -/
def branch (n : Nat) (m : Manner) (isFirst : Bool) (items : List Item) : Reader (List Node) :=
  match n with
  | 0 => fail .unexpectedEnd 0
  | n + 1 => do
    match ← peek with
    | none => return nodesOf items
    | some t =>
      if t.chars == ['|'] || t.chars == [')'] then return nodesOf items
      let _ ← next
      if m.verbose && isIdleBlank t then branch n m isFirst items
      else if m.verbose && t.chars == ['#'] then do
        let k ← remaining
        skipLine (k + 1)
        branch n m isFirst items
      else if isRepeatSign t then do
        let items ← readRepeat t items
        branch n m isFirst items
      else if t.chars == ['('] then do
        match ← opening t.place (isFirst && items.isEmpty) with
        | .nothing => do
          let p ← get
          let verbose := if m.nested then m.verbose else m.verbose || (isFirst && p.flags.verbose)
          branch n { m with verbose := verbose } isFirst items
        | .done a => branch n m isFirst (.single a :: items)
        | o => do
          let item ← inside n m t.place o
          branch n m isFirst (item :: items)
      else do
        let a ← plainNode t
        branch n m isFirst (.single a :: items)

/-- The rest of a group that was opened at place `start`. -/
def inside (n : Nat) (m : Manner) (start : Nat) (o : Opening) : Reader Item :=
  match n with
  | 0 => fail .unexpectedEnd 0
  | n + 1 => do
    let m := { m with nested := true }
    match o with
    | .ifGroup number => do
      let yes ← branch n m false []
      let more ← accept '|'
      let no ← if more then branch n m false [] else pure []
      let third ← startsWith '|'
      if more && third then fail .thirdBranch 0
      else do
        closeGroup start
        return .single (.ifGroup number (.ofList yes) (.ofList no))
    | .look backward wanted => do
      let p ← get
      if backward then modify fun q => { q with behind := q.behind.or (some q.widths.length) }
      let as ← branches n m []
      modify fun q => { q with behind := p.behind }
      closeGroup start
      let distance ← if backward then some <$> lookDistance (.ofList as) else pure none
      return .single (.look distance wanted (.ofList as))
    | .switched on off => do
      let verbose := (m.verbose || on.contains .verbose) && !off.contains .verbose
      let as ← branches n { m with verbose := verbose } []
      closeGroup start
      if on.isEmpty && off.isEmpty then return .bundle as else return .single (.switched on off (.ofList as))
    | .group number => do
      let as ← branches n m []
      closeGroup start
      noteWidth number (.ofList as)
      return .single (.group number (.ofList as))
    | .atomic => do
      let as ← branches n m []
      closeGroup start
      return .single (.atomic (.ofList as))
    | .plain => do
      let as ← branches n m []
      closeGroup start
      return .bundle as
    | .done a => return .single a
    | .nothing => return .bundle []

end

/-! ## The whole pattern -/

def Node.repetition? : Node → Option Eagerness
  | .times _ _ _ eagerness => some eagerness
  | .seq a b | .alt a b | .ifGroup _ a b => a.repetition?.or b.repetition?
  | .group _ a | .atomic a | .look _ _ a | .switched _ _ a => a.repetition?
  | _ => none

/-- Reads the whole text, then looks for faults that only show at the end. -/
def whole (size : Nat) : Reader Node := do
  check
  let p ← get
  let as ← branches (3 * size + 3) ⟨p.flags.verbose, false⟩ []
  let p ← get
  if p.switches.contains .ascii && p.switches.contains .unicode then throw ⟨.mixedAlphabets, none⟩
  if !p.tokens.isEmpty then fail .unbalancedGroup 0
  match p.asked.find? fun a => p.widths.length ≤ a.1, p.lookFault with
  | some (number, i), _ => failAt (.badReference number) i
  | none, some cause => throw ⟨cause, none⟩
  | none, none =>
    let root : Node := .ofList as
    match if p.switches.contains .template then root.repetition? else none with
    | some eagerness => throw ⟨.repeatInTemplate eagerness, none⟩
    | none => return root

def parse (flags : Flags) (text : String) : Except Fault Pattern := do
  let (root, p) ← (whole text.length).run (.start flags text)
  return ⟨text, p.flags, p.widths, root⟩

end Exemplar.Pattern

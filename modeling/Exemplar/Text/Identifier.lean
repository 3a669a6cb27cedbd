import Exemplar.Text.Classes

/-!
# Exemplar.Text.Identifier — identifiers and keywords

A text is an identifier when it starts with a letter or an underscore and goes on with letters, digits, marks and
underscores, each in the sense of Unicode's `XID` properties. Keywords are identifiers that the language of the
specifications keeps for itself.
-/

namespace Exemplar.Text

/-- A character that may stand first in an identifier. -/
def isIdentifierStart (c : Char) : Bool :=
  c == '_' || inRanges identifierStarts c

/-- A character that may stand after the first in an identifier. -/
def isIdentifierContinue (c : Char) : Bool :=
  inRanges identifierContinues c

/-- The text is one identifier; the empty text is none. -/
def isIdentifier (s : String) : Bool :=
  match s.toList with
  | [] => false
  | c :: r => isIdentifierStart c && r.all isIdentifierContinue

/-- The words that no helper may take for its name. -/
def keywords : List String := [
  "False", "None", "True", "and", "as", "assert", "async", "await", "break", "class", "continue", "def", "del",
  "elif", "else", "except", "finally", "for", "from", "global", "if", "import", "in", "is", "lambda", "nonlocal",
  "not", "or", "pass", "raise", "return", "try", "while", "with", "yield"]

def isKeyword (s : String) : Bool :=
  keywords.contains s

end Exemplar.Text

import Parley.Dict

/-!
# Drafts with placeholders

A draft is a text in which names in braces stand for details that are known later.  A name has small
letters, digits and underscores, and does not start with a digit; any other brace stands for itself.

* `Draft.pieces`: characters and placeholders of a text;
* `Draft.fill?`: the text with details in place, if all of them are known.
-/

namespace Parley

namespace Draft

/-- A character, or a name in braces. -/
inductive Piece
  | char (c : Char)
  | placeholder (name : List Char)
  deriving DecidableEq

def isNameStart (c : Char) : Bool := c.isLower || c = '_'

def isNameChar (c : Char) : Bool := isNameStart c || c.isDigit

/-- Whether a character can go on a name read so far, last character first. -/
def continuesName (read : List Char) (c : Char) : Bool :=
  if read.isEmpty then isNameStart c else isNameChar c

/-- The characters of a brace that opens no placeholder and of what was read after it. -/
def plain (read : List Char) : List Piece := .char '{' :: read.reverse.map .char

/-- Go through a text; after an opening brace, `some` holds the name read so far, last character
first. -/
def scan : Option (List Char) → List Char → List Piece
  | none, [] => []
  | some read, [] => plain read
  | none, c :: r => if c = '{' then scan (some []) r else .char c :: scan none r
  | some read, c :: r =>
      if c = '}' ∧ !read.isEmpty then .placeholder read.reverse :: scan none r
      else if continuesName read c then scan (some (c :: read)) r
      else if c = '{' then plain read ++ scan (some []) r
      else plain read ++ .char c :: scan none r

/-- The characters and placeholders of a text. -/
def pieces (text : String) : List Piece := scan none text.toList

/-- What a piece stands for, if it is known. -/
def Piece.fill? (details : Dict String) : Piece → Option (List Char)
  | .char c => some [c]
  | .placeholder name => (details.get? (String.ofList name)).map String.toList

/-- The text with details in place, if all of them are known. -/
def fill? (details : Dict String) (text : String) : Option String :=
  ((pieces text).mapM (Piece.fill? details)).map fun parts => String.ofList parts.flatten

end Draft

end Parley

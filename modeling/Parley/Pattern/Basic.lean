import Parley.Pattern.CharSet
import Parley.Text.Word

/-!
# Patterns and matching

A pattern is a regular expression with assertions about the neighbouring characters.  It is matched
by marks: a mark on a leaf says that the characters read so far can end there.  Reading a character
moves the marks, and a text matches when the marks reach the end of the pattern.

* `Pattern`, `Assertion`;
* `Pattern.shift`: move the marks over one character;
* `Pattern.isMatch`: whether a pattern matches somewhere in a text;
* `Pattern.power`, `Pattern.upTo`: repetition by number.
-/

namespace Parley

namespace Pattern

/-- The characters before and after a place in a text. -/
structure Context where
  before : Option Char
  after : Option Char

/-- A condition on a place in a text. -/
inductive Assertion
  | textStart
  | textEnd
  | lineStart
  | lineEnd
  | lineStartCRLF
  | lineEndCRLF
  | wordBoundary (word : Text.Ranges) (negated : Bool)
  | wordStart (word : Text.Ranges)
  | wordEnd (word : Text.Ranges)
  | wordStartHalf (word : Text.Ranges)
  | wordEndHalf (word : Text.Ranges)

/-- Whether a condition holds at a place. -/
def Assertion.holds (a : Assertion) (x : Context) : Bool :=
  let isWord (w : Text.Ranges) (c : Option Char) : Bool := c.any w.contains
  match a with
  | .textStart => x.before.isNone
  | .textEnd => x.after.isNone
  | .lineStart => x.before.all (· = '\n')
  | .lineEnd => x.after.all (· = '\n')
  | .lineStartCRLF =>
      x.before.all fun c => c = '\n' || (c = '\r' && x.after ≠ some '\n')
  | .lineEndCRLF =>
      x.after.all fun c => c = '\r' || (c = '\n' && x.before ≠ some '\r')
  | .wordBoundary w negated => (isWord w x.before != isWord w x.after) != negated
  | .wordStart w => !isWord w x.before && isWord w x.after
  | .wordEnd w => isWord w x.before && !isWord w x.after
  | .wordStartHalf w => !isWord w x.before
  | .wordEndHalf w => !isWord w x.after

end Pattern

/-- A regular expression whose leaves carry marks. -/
inductive Pattern
  | empty
  | leaf (set : Pattern.CharSet) (mark : Bool)
  | look (a : Pattern.Assertion)
  | cat (p q : Pattern)
  | alt (p q : Pattern)
  | star (p : Pattern)

namespace Pattern

/-- Whether a pattern matches the empty text at a place. -/
def nullable (x : Context) : Pattern → Bool
  | .empty => true
  | .leaf _ _ => false
  | .look a => a.holds x
  | .cat p q => p.nullable x && q.nullable x
  | .alt p q => p.nullable x || q.nullable x
  | .star _ => true

/-- Whether a mark can reach the end of a pattern at a place. -/
def final (x : Context) : Pattern → Bool
  | .empty => false
  | .leaf _ mark => mark
  | .look _ => false
  | .cat p q => (p.final x && q.nullable x) || q.final x
  | .alt p q => p.final x || q.final x
  | .star p => p.final x

/-- Move the marks over a character at a place; `enter` lets a match begin there. -/
def shift (x : Context) (c : Char) (enter : Bool) : Pattern → Pattern
  | .empty => .empty
  | .leaf s _ => .leaf s (enter && s.contains c)
  | .look a => .look a
  | .cat p q =>
      .cat (p.shift x c enter) (q.shift x c ((enter && p.nullable x) || p.final x))
  | .alt p q => .alt (p.shift x c enter) (q.shift x c enter)
  | .star p => .star (p.shift x c (enter || p.final x))

/-- Whether a match ends at a place. -/
def accepts (p : Pattern) (x : Context) : Bool := p.final x || p.nullable x

/-- Whether a match ends in a text, whose first place has this character before it. -/
def matchFrom (p : Pattern) (before : Option Char) : List Char → Bool
  | [] => p.accepts ⟨before, none⟩
  | c :: r =>
      let x : Context := ⟨before, some c⟩
      p.accepts x || (p.shift x c true).matchFrom (some c) r

/-- Whether a pattern without marks matches somewhere in a text. -/
def isMatch (p : Pattern) (text : String) : Bool := p.matchFrom none text.toList

/-- A pattern a number of times. -/
def power (p : Pattern) : Nat → Pattern
  | 0 => .empty
  | n + 1 => .cat p (p.power n)

/-- A pattern at most a number of times. -/
def upTo (p : Pattern) : Nat → Pattern
  | 0 => .empty
  | n + 1 => .alt .empty (.cat p (p.upTo n))

end Pattern

end Parley

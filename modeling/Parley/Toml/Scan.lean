/-!
# Scanners

A `Scan` takes a value from the front of a text or fails; `<|>` tries another scanner at the same
place.

* `one`, `spanning`, `word`: characters;
* `several`, `separated`: repetitions, bounded by the length of the text;
* `blanks`, `lineBreak`, `comment`, `lineEnd`: what may stand between the parts of a settings file.
-/

namespace Parley.Toml

/-- A way to take a value from the front of a text. -/
abbrev Scan (α : Type) := StateT (List Char) Option α

namespace Scan

variable {α β : Type}

/-- One character of a class. -/
def one (p : Char → Bool) : Scan Char
  | c :: r => if p c then some (c, r) else none
  | [] => none

/-- A certain character. -/
def char (c : Char) : Scan Unit := do
  let _ ← one (· = c)

/-- All characters of a class that stand in front. -/
def spanning (p : Char → Bool) : Scan (List Char) := fun cs => some (cs.takeWhile p, cs.dropWhile p)

/-- A certain text. -/
def word (w : String) : Scan Unit := fun cs =>
  if w.toList.isPrefixOf cs then some ((), cs.drop w.length) else none

/-- As many values as there are, but not more than a number. -/
def atMost (p : Scan α) : Nat → Scan (List α)
  | 0 => pure []
  | n + 1 =>
      (do
        let a ← p
        let r ← atMost p n
        pure (a :: r))
      <|> pure []

/-- As many values as there are.  A value takes at least one character, so the length of the text is
bound enough. -/
def several (p : Scan α) : Scan (List α) := fun cs => atMost p cs.length cs

/-- Values with a separator between them. -/
def separated (separator : Scan Unit) (p : Scan α) : Scan (List α) :=
  (do
    let a ← p
    let r ← several (do separator; p)
    pure (a :: r))
  <|> pure []

/-- A value or nothing. -/
def optional (p : Scan α) : Scan (Option α) := some <$> p <|> pure none

/-- The end of the text. -/
def ending : Scan Unit
  | [] => some ((), [])
  | _ :: _ => none

/-- The value of a whole text. -/
def all (p : Scan α) (cs : List Char) : Option α :=
  match p cs with
  | some (a, []) => some a
  | _ => none

/-! ### Blanks, lines and comments -/

def isBlank (c : Char) : Bool := c = ' ' || c = '\t'

/-- The visible characters of ASCII, and all beyond ASCII. -/
def isPlain (c : Char) : Bool := (0x20 ≤ c.toNat && c.toNat ≤ 0x7E) || 0x80 ≤ c.toNat

/-- Spaces and tabs. -/
def blanks : Scan Unit := do
  let _ ← spanning isBlank

/-- The end of a line that is not the last. -/
def lineBreak : Scan Unit := char '\n' <|> word "\r\n"

/-- A comment, up to the end of its line. -/
def comment : Scan Unit := do
  char '#'
  let _ ← spanning fun c => isPlain c || c = '\t'

/-- The rest of a line after what it says. -/
def lineEnd : Scan Unit := do
  blanks
  let _ ← optional comment
  lineBreak <|> ending

/-- Blanks, comments and line breaks. -/
def gap : Scan Unit := do
  let _ ← several ((do let _ ← one isBlank) <|> lineBreak <|> (do comment; lineBreak))

end Scan

end Parley.Toml

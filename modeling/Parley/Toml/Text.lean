import Parley.Json.Token
import Parley.Toml.Scan

/-!
# Texts and keys

A text stands between single or double quotes, and escapes are read between double quotes only.
Between three quotes it may run over several lines, and one or two quotes in it stand for
themselves.
-/

namespace Parley.Toml.Scan

/-! ### Escapes -/

/-- The number that hexadecimal digits write. -/
def ofHex (cs : List Char) : Nat := cs.foldl (fun n c => 16 * n + (Json.hexValue? c).getD 0) 0

def isHex (c : Char) : Bool := (Json.hexValue? c).isSome

/-- A code point of so many hexadecimal digits. -/
def codePoint (digits : Nat) : Scan Char := fun cs =>
  let ds := cs.take digits
  let n := ofHex ds
  if ds.length = digits ∧ ds.all isHex ∧ n.isValidChar then
    some (Char.ofNat n, cs.drop digits) else none

/-- A backslash and what it stands for. -/
def escape : Scan Char := do
  char '\\'
  match ← one fun _ => true with
  | 'b' => pure (Char.ofNat 8)
  | 'f' => pure (Char.ofNat 12)
  | 'n' => pure '\n'
  | 'r' => pure '\r'
  | 't' => pure '\t'
  | '"' => pure '"'
  | '\\' => pure '\\'
  | 'u' => codePoint 4
  | 'U' => codePoint 8
  | _ => failure

/-! ### Texts on one line -/

/-- A character that stands for itself between double quotes. -/
def isBasic (c : Char) : Bool := (isPlain c || c = '\t') && c ≠ '"' && c ≠ '\\'

/-- A character that stands for itself between single quotes. -/
def isLiteral (c : Char) : Bool := (isPlain c || c = '\t') && c ≠ '\''

/-- A text between double quotes. -/
def basicText : Scan String := do
  char '"'
  let cs ← several (one isBasic <|> escape)
  char '"'
  pure (String.ofList cs)

/-- A text between single quotes. -/
def literalText : Scan String := do
  char '\''
  let cs ← spanning isLiteral
  char '\''
  pure (String.ofList cs)

/-! ### Texts on several lines -/

/-- One or two quotes that stand for themselves. -/
def innerQuotes (q : Char) : Scan (List Char) := fun cs =>
  let n := (cs.takeWhile (· = q)).length
  if n = 1 ∨ n = 2 then some (List.replicate n q, cs.drop n) else none

/-- Three quotes that close a text; up to two before them belong to it. -/
def closingQuotes (q : Char) : Scan (List Char) := fun cs =>
  let n := (cs.takeWhile (· = q)).length
  if 3 ≤ n ∧ n ≤ 5 then some (List.replicate (n - 3) q, cs.drop n) else none

/-- A backslash at the end of a line: blanks and line breaks that follow it are left out. -/
def continuation : Scan Unit := do
  char '\\'
  blanks
  lineBreak
  let _ ← several ((do let _ ← one isBlank) <|> lineBreak)

/-- A text of these parts between three quotes; a line break at its start is left out. -/
def longText (q : Char) (part : Scan (List Char)) : Scan String := do
  word (String.ofList [q, q, q])
  let _ ← optional lineBreak
  let parts ← several (part <|> (do lineBreak; pure ['\n']) <|> innerQuotes q)
  let last ← closingQuotes q
  pure (String.ofList (parts.flatten ++ last))

/-- A text between three double quotes. -/
def longBasicText : Scan String :=
  longText '"'
    (((· :: []) <$> one isBasic) <|> (do continuation; pure []) <|> ((· :: []) <$> escape))

/-- A text between three single quotes. -/
def longLiteralText : Scan String := longText '\'' ((· :: []) <$> one isLiteral)

/-- A text in any kind of quotes. -/
def text : Scan String := longBasicText <|> basicText <|> longLiteralText <|> literalText

/-! ### Keys -/

def isBare (c : Char) : Bool := c.isAlphanum || c = '-' || c = '_'

/-- One part of a key: a word, or a text on one line. -/
def keyPart : Scan String := do
  blanks
  let part ← basicText <|> literalText <|> (do
    let cs ← spanning isBare
    if cs = [] then failure
    pure (String.ofList cs))
  blanks
  pure part

/-- Neither keys nor values nest this deep. -/
def maxDepth : Nat := 80

/-- A key: the path to it, and its last part. -/
def key : Scan (List String × String) := do
  let parts ← separated (char '.') keyPart
  match parts.getLast? with
  | none => failure
  | some name =>
      if maxDepth ≤ parts.length then failure
      pure (parts.dropLast, name)

end Parley.Toml.Scan

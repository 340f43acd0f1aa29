import Parley.Number.Decimal
import Parley.Text.Blank
import Parley.Text.Letter
import Parley.Text.Quoted

/-!
# Tokens of the guard language

Names, quoted texts, numbers, keywords in any case, comparison signs and brackets.  Each token
carries the byte offset at which it starts.

* `Token.shown`: the name of a token in messages;
* `Fault`: what can be wrong with a text;
* `scan`: the tokens of a text.
-/

namespace Parley.Guard

/-- The six comparisons. -/
inductive Comparison
  | eq
  | ne
  | lt
  | le
  | gt
  | ge
  deriving DecidableEq, Repr

namespace Comparison

def symbol : Comparison → String
  | .eq => "=="
  | .ne => "!="
  | .lt => "<"
  | .le => "<="
  | .gt => ">"
  | .ge => ">="

def name : Comparison → String
  | .eq => "Eq"
  | .ne => "Ne"
  | .lt => "Lt"
  | .le => "Le"
  | .gt => "Gt"
  | .ge => "Ge"

/-- Whether the comparison asks for an order and not only for equality. -/
def isOrdering : Comparison → Bool
  | .eq | .ne => false
  | _ => true

end Comparison

inductive Token
  | openParen
  | closeParen
  | comma
  | and
  | or
  | not
  | compare (op : Comparison)
  | name (s : String)
  | text (s : String)
  | number (x : Binary64)
  | true
  | false
  | null
  | present
  | missing
  | otherwise
  deriving DecidableEq

namespace Token

/-- The name of a token in messages. -/
def shown : Token → String
  | .openParen => "LParen"
  | .closeParen => "RParen"
  | .comma => "Comma"
  | .and => "And"
  | .or => "Or"
  | .not => "Not"
  | .compare op => "Cmp(" ++ op.name ++ ")"
  | .name s => "Ident(" ++ Text.quoted s ++ ")"
  | .text s => "Str(" ++ Text.quoted s ++ ")"
  | .number x => "Num(" ++ x.text .token ++ ")"
  | .true => "True"
  | .false => "False"
  | .null => "Null"
  | .present => "Present"
  | .missing => "Missing"
  | .otherwise => "Else"

/-- The token of a word: a keyword in any case, or a name. -/
def ofWord (word : String) : Token :=
  match word.map Char.toLower with
  | "and" => .and
  | "or" => .or
  | "not" => .not
  | "true" => .true
  | "false" => .false
  | "null" => .null
  | "present" => .present
  | "missing" => .missing
  | "else" => .otherwise
  | _ => .name word

end Token

/-- What stands in a guard at a place where something else is expected. -/
inductive Expected
  | name
  | openParen
  | closeParen
  | comparison
  | commaOrClose
  | value
  deriving DecidableEq

def Expected.text : Expected → String
  | .name => "a name"
  | .openParen => "'('"
  | .closeParen => "')'"
  | .comparison => "a comparison or 'present'/'missing'"
  | .commaOrClose => "',' or ')'"
  | .value => "a value"

/-- The longest guard, in bytes. -/
def maxLength : Nat := 4096

/-- The most tokens of a guard. -/
def maxTokens : Nat := 1024

/-- The most brackets and negations open at one place. -/
def maxDepth : Nat := 64

/-- What can be wrong with the text of a guard. -/
inductive Fault
  | tooLong
  | tooManyTokens
  | tooDeep
  | openText
  | badNumber (text : String)
  | badCharacter (c : Char)
  | empty
  | emptyCall
  | noExpression
  | noExpressionAtEnd
  | otherwiseInside
  | emptyContextName
  | numberOutOfRange
  | openArguments
  | unexpected (t : Token)
  | expected (what : Expected) (found : Option Token)
  deriving DecidableEq

def Fault.message : Fault → String
  | .tooLong => "guard is longer than " ++ toString maxLength ++ " bytes"
  | .tooManyTokens => "guard has more than " ++ toString maxTokens ++ " tokens"
  | .tooDeep => "guard nests deeper than " ++ toString maxDepth ++ " levels"
  | .openText => "unterminated string literal"
  | .badNumber text => "invalid number '" ++ text ++ "'"
  | .badCharacter c => "unexpected character '" ++ c.toString ++ "'"
  | .empty => "empty expression"
  | .emptyCall => "empty call"
  | .noExpression => "expected an expression"
  | .noExpressionAtEnd => "expected an expression, found end of input"
  | .otherwiseInside => "'else' must be the whole guard"
  | .emptyContextName => "empty context name"
  | .numberOutOfRange => "number out of range"
  | .openArguments => "unclosed argument list"
  | .unexpected t => "unexpected " ++ t.shown
  | .expected what none => "expected " ++ what.text ++ ", found end of input"
  | .expected what (some t) => "expected " ++ what.text ++ ", found " ++ t.shown

/-- A fault and the byte offset at which it was found. -/
structure FaultAt where
  position : Nat
  fault : Fault
  deriving DecidableEq

/-! ### Scanning -/

/-- The length of a text in bytes. -/
def byteLength (cs : List Char) : Nat := cs.foldr (fun c n => c.utf8Size + n) 0

/-- Read a quoted text after its opening quote; a backslash stands before any character taken as it
is.  Returns the text, the bytes read and the rest. -/
def scanQuoted (quote : Char) : List Char → Option (List Char × Nat × List Char)
  | [] => none
  | [c] => if c = quote then some ([], c.utf8Size, []) else none
  | c :: d :: r =>
      if c = '\\' then
        (scanQuoted quote r).map fun (v, n, s) => (d :: v, 1 + d.utf8Size + n, s)
      else if c = quote then some ([], c.utf8Size, d :: r)
      else (scanQuoted quote (d :: r)).map fun (v, n, s) => (c :: v, c.utf8Size + n, s)

theorem scanQuoted_length {quote : Char} {cs v s : List Char} {n : Nat}
    (h : scanQuoted quote cs = some (v, n, s)) : s.length ≤ cs.length := by
  fun_induction scanQuoted quote cs generalizing v n s <;> simp_all <;> grind

/-- A character that continues a name. -/
def isNameChar (c : Char) : Bool := Text.isAlphanumeric c || c = '_' || c = '.' || c = '-'

/-- A character that begins a name. -/
def isNameStart (c : Char) : Bool := Text.isAlphabetic c || c = '_'

/-- A character that continues a number. -/
def isNumberChar (c : Char) : Bool := c.isDigit || c = '.'

/-- The sign that two characters form together. -/
def pairToken? (c d : Char) : Option Token :=
  if d = '=' then
    if c = '=' then some (.compare .eq)
    else if c = '!' then some (.compare .ne)
    else if c = '<' then some (.compare .le)
    else if c = '>' then some (.compare .ge)
    else none
  else if c = '&' ∧ d = '&' then some .and
  else if c = '|' ∧ d = '|' then some .or
  else none

/-- The sign that a character is by itself. -/
def singleToken? (c : Char) : Option Token :=
  if c = '(' then some .openParen
  else if c = ')' then some .closeParen
  else if c = ',' then some .comma
  else if c = '!' then some .not
  else if c = '<' then some (.compare .lt)
  else if c = '>' then some (.compare .gt)
  else none

/-- A token, or none for a blank, with the bytes it takes and the rest of the text. -/
structure Lexeme (r : List Char) where
  token : Option Token
  width : Nat
  rest : { s : List Char // s.length ≤ r.length }

/-- Whether a number starts with this character before this rest. -/
def startsNumber (c : Char) (r : List Char) : Bool :=
  c.isDigit || (c = '-' && r.head?.any Char.isDigit)

/-- Read the token that starts with a character and is no pair of signs. -/
def lexemeFrom (c : Char) (r : List Char) : Except Fault (Lexeme r) :=
  if Text.isBlank c then .ok ⟨none, c.utf8Size, r, Nat.le_refl _⟩
  else
    match singleToken? c with
    | some t => .ok ⟨some t, c.utf8Size, r, Nat.le_refl _⟩
    | none =>
        if c = '"' ∨ c = '\'' then
          match h : scanQuoted c r with
          | none => .error .openText
          | some (v, n, s) =>
              .ok ⟨some (.text (String.ofList v)), c.utf8Size + n, s, scanQuoted_length h⟩
        else if startsNumber c r then
          let text := c :: r.takeWhile isNumberChar
          match Binary64.read? text with
          | none => .error (.badNumber (String.ofList text))
          | some x =>
              .ok ⟨some (.number x), byteLength text, r.dropWhile isNumberChar,
                (List.dropWhile_sublist _).length_le⟩
        else if isNameStart c then
          let word := c :: r.takeWhile isNameChar
          .ok ⟨some (.ofWord (String.ofList word)), byteLength word, r.dropWhile isNameChar,
            (List.dropWhile_sublist _).length_le⟩
        else .error (.badCharacter c)

/-- Read the token, or the blank, at the start of a text. -/
def lexeme (c : Char) (r : List Char) : Except Fault (Lexeme r) :=
  match r with
  | [] => lexemeFrom c []
  | d :: s =>
      match pairToken? c d with
      | some t => .ok ⟨some t, c.utf8Size + d.utf8Size, s, by simp⟩
      | none => lexemeFrom c (d :: s)

/-- Tokens with the byte offsets at which they start. -/
abbrev Tokens := List (Nat × Token)

/-- The tokens of a text that starts at a byte offset. -/
def scan (pos : Nat) : List Char → Except FaultAt Tokens
  | [] => .ok []
  | c :: r =>
      match lexeme c r with
      | .error f => .error ⟨pos, f⟩
      | .ok ⟨t, w, s, _⟩ =>
          match scan (pos + w) s with
          | .error e => .error e
          | .ok ts =>
              match t with
              | none => .ok ts
              | some t => .ok ((pos, t) :: ts)
termination_by cs => cs.length
decreasing_by simp only [List.length_cons]; omega

end Parley.Guard

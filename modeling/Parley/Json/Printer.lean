import Parley.Json.Basic

/-!
# Written JSON

`Json.compact` writes a value on one line, `Json.pretty` with one member or item a line, indented by
two spaces; empty arrays and objects stay on one line.
-/

namespace Parley.Json

/-- A control character as four hexadecimal digits. -/
def controlChars (n : Nat) : List Char :=
  ['\\', 'u', '0', '0', Nat.digitChar (n / 16), Nat.digitChar (n % 16)]

/-- How a character stands in a string. -/
def escape (c : Char) : List Char :=
  if c = '"' then ['\\', '"']
  else if c = '\\' then ['\\', '\\']
  else if c = '\n' then ['\\', 'n']
  else if c = '\t' then ['\\', 't']
  else if c = '\r' then ['\\', 'r']
  else if c.toNat = 8 then ['\\', 'b']
  else if c.toNat = 12 then ['\\', 'f']
  else if c.toNat < 32 then controlChars c.toNat
  else [c]

def stringText (s : String) : String :=
  String.ofList (['"'] ++ s.toList.flatMap escape ++ ['"'])

def numberText (n : Number) : String := n.text?.getD "null"

mutual

/-- The text of a value on one line. -/
def compact : Json → String
  | .null => "null"
  | .bool true => "true"
  | .bool false => "false"
  | .number n => numberText n
  | .string s => stringText s
  | .array items => "[" ++ ",".intercalate (compactItems items) ++ "]"
  | .object members => "\x7b" ++ ",".intercalate (compactMembers members) ++ "\x7d"

def compactItems : List Json → List String
  | [] => []
  | j :: r => compact j :: compactItems r

def compactMembers : List (String × Json) → List String
  | [] => []
  | (k, j) :: r => (stringText k ++ ":" ++ compact j) :: compactMembers r

end

/-- A line break and the indentation of a level. -/
def newline (level : Nat) : String := String.ofList ('\n' :: List.replicate (2 * level) ' ')

mutual

/-- The text of a value whose opening bracket stands at an indentation level. -/
def prettyAt (level : Nat) : Json → String
  | .array [] => "[]"
  | .array (j :: r) =>
      "[" ++ newline (level + 1)
        ++ ("," ++ newline (level + 1)).intercalate (prettyItems (level + 1) (j :: r))
        ++ newline level ++ "]"
  | .object [] => "\x7b\x7d"
  | .object (m :: r) =>
      "\x7b" ++ newline (level + 1)
        ++ ("," ++ newline (level + 1)).intercalate (prettyMembers (level + 1) (m :: r))
        ++ newline level ++ "\x7d"
  | j => compact j

def prettyItems (level : Nat) : List Json → List String
  | [] => []
  | j :: r => prettyAt level j :: prettyItems level r

def prettyMembers (level : Nat) : List (String × Json) → List String
  | [] => []
  | (k, j) :: r => (stringText k ++ ": " ++ prettyAt level j) :: prettyMembers level r

end

/-- The text of a value over several lines. -/
def pretty (j : Json) : String := prettyAt 0 j

end Parley.Json

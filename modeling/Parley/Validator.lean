import Parley.Guard.Parser
import Parley.Guard.Value
import Parley.Pattern.Parser

/-!
# Answer validators

A validator accepts an answer, perhaps in another form, or rejects it with a reason.  It is named in
call syntax, such as `range(1, 10)`, and its arguments are checked once, when it is prepared.

* `Validator.Rule`: a named validator; `Rules`: those that may be named;
* `Validator`: a rule with its arguments; `Rules.compile` makes one from a text;
* `Rules.builtin`: `range`, `length`, `pattern`, `one_of`, `number`, `integer`, `boolean` and
  `email`.
-/

namespace Parley

/-- A prepared validator: its text, and the answer that it makes of a value or the reason why it
makes none. -/
structure Validator where
  spec : String
  accept : Json → Except String Json

namespace Validator

/-- A named validator.  `prepare` checks the arguments. -/
structure Rule where
  name : String
  prepare : List Json → Except String (Json → Except String Json)

/-- The validators that may be named. -/
abbrev Rules := Dict Rule

/-! ### Arguments -/

/-- Refuse a number of arguments outside bounds. -/
def expectCount (name : String) (args : List Json) (min max : Nat) : Except String Unit :=
  let got := ", got " ++ toString args.length
  if min ≤ args.length ∧ args.length ≤ max then .ok ()
  else if min = max then .error (name ++ " takes " ++ toString min ++ " argument(s)" ++ got)
  else
    .error (name ++ " takes " ++ toString min ++ " to " ++ toString max ++ " arguments" ++ got)

/-- The numbers among the arguments; all have to be. -/
def numbers (name : String) : List Json → Except String (List Binary64)
  | [] => .ok []
  | .number n :: r => (numbers name r).map (n.toBinary64 :: ·)
  | v :: _ => .error (name ++ " expects numeric arguments, got " ++ v.compact)

/-- The value of a number: whole numbers become integers. -/
def ofNumber (x : Binary64) : Json := ((Number.ofBinary64? x).map Json.number).getD .null

def boundText (x : Binary64) : String := (ofNumber x).compact

/-- The number of a value, or the reason why it has none. -/
def numberOf (v : Json) : Except String Binary64 :=
  (Guard.number? v).elim (.error "expected a number") .ok

/-! ### Rules -/

/-- Accept numbers within bounds. -/
def acceptRange (lo hi : Binary64) (v : Json) : Except String Json := do
  let x ← numberOf v
  if x.lt lo || hi.lt x then
    throw ("must be between " ++ boundText lo ++ " and " ++ boundText hi)
  else pure (ofNumber x)

/-- `range(lo, hi)`: a number within bounds. -/
def range : Rule where
  name := "range"
  prepare args := do
    expectCount "range" args 2 2
    match ← numbers "range" args with
    | [lo, hi] =>
        if hi.lt lo then throw "range minimum exceeds maximum" else pure (acceptRange lo hi)
    | _ => throw "range minimum exceeds maximum"

/-- Accept texts of a length within bounds. -/
def acceptLength (lo : Binary64) (hi : Option Binary64) : Json → Except String Json
  | .string s =>
      let trimmed := Text.trim s
      let length := Binary64.ofNat trimmed.length
      if length.lt lo then .error ("must be at least " ++ boundText lo ++ " characters")
      else
        match hi with
        | some hi =>
            if hi.lt length then .error ("must be at most " ++ boundText hi ++ " characters")
            else .ok (.string trimmed)
        | none => .ok (.string trimmed)
  | _ => .error "expected text"

/-- `length(lo)` or `length(lo, hi)`: a text of so many characters, blanks around it aside. -/
def length : Rule where
  name := "length"
  prepare args := do
    expectCount "length" args 1 2
    match ← numbers "length" args with
    | lo :: r => pure (acceptLength lo r.head?)
    | [] => throw "length takes 1 to 2 arguments, got 0"

/-- The text of a value to be matched. -/
def matchedText : Json → Except String String
  | .string s => .ok (Text.trim s)
  | .number n => .ok (Json.numberText n)
  | _ => .error "expected text"

/-- Accept values whose text matches a pattern somewhere. -/
def acceptPattern (p : Pattern) (v : Json) : Except String Json := do
  let text ← matchedText v
  if p.isMatch text then pure (.string text) else throw "is not in the expected format"

/-- `pattern("p")`: a text that matches a pattern somewhere. -/
def pattern : Rule where
  name := "pattern"
  prepare args := do
    expectCount "pattern" args 1 1
    match args with
    | .string p :: _ => (Pattern.parse? p).mapError Pattern.Error.message |>.map acceptPattern
    | _ => throw "pattern expects a string argument"

/-- Equality of texts, in which ASCII letters agree in any case. -/
def sameIgnoringCase (s t : String) : Bool := s.map Char.toLower == t.map Char.toLower

/-- Whether a value chooses an option. -/
def chooses (v option : Json) : Bool :=
  match v, option with
  | .string s, .string o => sameIgnoringCase (Text.trim s) o
  | _, _ => Guard.equal v option

def optionText : Json → String
  | .string s => s
  | v => v.compact

/-- Accept values that choose an option, and make them that option. -/
def acceptOption (options : List Json) (v : Json) : Except String Json :=
  match options.find? (chooses v) with
  | some o => .ok o
  | none => .error ("must be one of: " ++ ", ".intercalate (options.map optionText))

/-- `one_of(option, ...)`: one of the options, texts in any case. -/
def oneOf : Rule where
  name := "one_of"
  prepare args :=
    if args.isEmpty then throw "one_of needs at least one option" else pure (acceptOption args)

/-- `number`: any number. -/
def number : Rule where
  name := "number"
  prepare args := do
    expectCount "number" args 0 0
    pure fun v => (numberOf v).map ofNumber

/-- Accept whole numbers. -/
def acceptInteger (v : Json) : Except String Json := do
  let x ← numberOf v
  if x.toInt?.isSome then pure (ofNumber x) else throw "expected a whole number"

/-- `integer`: a whole number. -/
def integer : Rule where
  name := "integer"
  prepare args := do
    expectCount "integer" args 0 0
    pure acceptInteger

/-- Accept truth values and the common words for them. -/
def acceptBoolean : Json → Except String Json
  | .bool b => .ok (.bool b)
  | .string s =>
      let word := (Text.trim s).map Char.toLower
      if word ∈ ["yes", "y", "true", "1"] then .ok (.bool true)
      else if word ∈ ["no", "n", "false", "0"] then .ok (.bool false)
      else .error "expected yes or no"
  | _ => .error "expected yes or no"

/-- `boolean`: a truth value or a word for one. -/
def boolean : Rule where
  name := "boolean"
  prepare args := do
    expectCount "boolean" args 0 0
    pure acceptBoolean

/-- Whether a text has one at sign with something before it, a domain with an inner point after it,
and no blanks. -/
def isAddress (cs : List Char) : Bool :=
  let name := cs.takeWhile (· ≠ '@')
  match cs.dropWhile (· ≠ '@') with
  | [] => false
  | _ :: domain =>
      !name.isEmpty && !domain.contains '@' && domain.contains '.' && domain.head? != some '.'
        && domain.getLast? != some '.' && !cs.any Text.isBlank

/-- Accept addresses, and make them lower case. -/
def acceptEmail : Json → Except String Json
  | .string s =>
      let address := Text.trim s
      if isAddress address.toList then .ok (.string (address.map Char.toLower))
      else .error "expected an email address"
  | _ => .error "expected an email address"

/-- `email`: a mail address. -/
def email : Rule where
  name := "email"
  prepare args := do
    expectCount "email" args 0 0
    pure acceptEmail

namespace Rules

/-- Add a rule; it replaces one of the same name. -/
def register (r : Rules) (rule : Rule) : Rules := r.insert rule.name rule

/-- The rules that every flow may name. -/
def builtin : Rules :=
  [range, length, pattern, oneOf, number, integer, boolean, email].foldl register []

/-- The validator that a text names. -/
def compile (rules : Rules) (spec : String) : Except String Validator := do
  let call ← (Guard.parseCall spec).mapError Guard.Error.message
  match rules.get? call.name with
  | none => throw ("unknown validator '" ++ call.name ++ "'")
  | some rule => do
      let accept ← rule.prepare call.args
      pure ⟨Text.trim spec, accept⟩

end Rules

end Validator

end Parley

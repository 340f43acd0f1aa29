import Parley.Guard.Error
import Parley.Guard.Expr

/-!
# Reading guards

A recursive-descent reader over tokens.  Each parser returns the tokens left together with the fact
that they are fewer, and `unary` recurses on the number of brackets and negations that may still be
opened.

* `parseExpr?`: an expression;
* `parseEdgeGuard?`: an edge guard;
* `parseCall?`: a name with literal arguments.
-/

namespace Parley.Guard

/-- A value read from the front of tokens, and the tokens left, which are fewer. -/
structure Parsed (α : Type) (ts : Tokens) where
  value : α
  rest : Tokens
  shorter : rest.length < ts.length

/-- A way to read a value from the front of tokens. -/
abbrev Parser (α : Type) := (ts : Tokens) → Except FaultAt (Parsed α ts)

/-- The offset of the first token, or the end of the text. -/
def offset (stop : Nat) : Tokens → Nat
  | [] => stop
  | (pos, _) :: _ => pos

/-- The fault of tokens that start with something unexpected. -/
def expected (what : Expected) (stop : Nat) : Tokens → FaultAt
  | [] => ⟨stop, .expected what none⟩
  | (pos, t) :: _ => ⟨pos, .expected what (some t)⟩

/-- The operand that a name stands for: `ctx.` before it makes it a context value. -/
def nameOperand? (name : String) : Option Operand :=
  match name.toList with
  | 'c' :: 't' :: 'x' :: '.' :: r => if r = [] then none else some (.context (String.ofList r))
  | _ => some (.answer name)

/-- The operand of a token. -/
def operandOf? : Token → Except Fault Operand
  | .name n => (nameOperand? n).elim (.error .emptyContextName) .ok
  | .text s => .ok (.value (.string s))
  | .number x => ((Number.ofBinary64? x).map (Operand.value ∘ Json.number)).elim
      (.error .numberOutOfRange) .ok
  | .true => .ok (.value (.bool true))
  | .false => .ok (.value (.bool false))
  | .null => .ok (.value .null)
  | t => .error (.expected .value (some t))

def operand (stop : Nat) : Parser Operand
  | [] => .error ⟨stop, .expected .value none⟩
  | (pos, t) :: r =>
      match operandOf? t with
      | .ok o => .ok ⟨o, r, by simp⟩
      | .error f => .error ⟨pos, f⟩

/-- Operands separated by commas, and the closing bracket. -/
def operandsToClose (stop : Nat) : Parser (List Operand) := fun ts =>
  match operand stop ts with
  | .error e => .error e
  | .ok ⟨o, [], _⟩ => .error ⟨stop, .openArguments⟩
  | .ok ⟨o, (pos, t) :: r, h⟩ =>
      match t with
      | .closeParen => .ok ⟨[o], r, by simp at h; omega⟩
      | .comma =>
          match operandsToClose stop r with
          | .error e => .error e
          | .ok ⟨os, s, h'⟩ => .ok ⟨o :: os, s, by simp at h; omega⟩
      | t => .error ⟨pos, .expected .commaOrClose (some t)⟩
termination_by ts => ts.length
decreasing_by simp at h; omega

/-- An argument list in brackets. -/
def arguments (stop : Nat) : Parser (List Operand)
  | (_, .openParen) :: (_, .closeParen) :: r => .ok ⟨[], r, by simp only [List.length_cons]; omega⟩
  | (_, .openParen) :: r =>
      match operandsToClose stop r with
      | .error e => .error e
      | .ok ⟨os, s, h⟩ => .ok ⟨os, s, by simp; omega⟩
  | ts => .error (expected .openParen stop ts)

/-- An operand and what is said of it: present, missing, or compared with another one. -/
def relation (stop : Nat) : Parser Expr := fun ts =>
  match operand stop ts with
  | .error e => .error e
  | .ok ⟨left, (_, .present) :: r, h⟩ => .ok ⟨.present left, r, by simp at h; omega⟩
  | .ok ⟨left, (_, .missing) :: r, h⟩ => .ok ⟨.not (.present left), r, by simp at h; omega⟩
  | .ok ⟨left, (_, .compare op) :: r, h⟩ =>
      match operand stop r with
      | .error e => .error e
      | .ok ⟨right, s, h'⟩ => .ok ⟨.compare left op right, s, by simp at h; omega⟩
  | .ok ⟨_, r, _⟩ => .error (expected .comparison stop r)

/-- Whether a comparison sign comes first. -/
def startsWithComparison : Tokens → Bool
  | (_, .compare _) :: _ => true
  | _ => false

/-- Whether an opening bracket comes first. -/
def startsWithBracket : Tokens → Bool
  | (_, .openParen) :: _ => true
  | _ => false

/-- An expression without brackets, negation and connectives. -/
def leaf (stop : Nat) : Parser Expr
  | [] => .error ⟨stop, .noExpressionAtEnd⟩
  | (pos, t) :: r =>
      match t with
      | .otherwise => .error ⟨pos, .otherwiseInside⟩
      | .true =>
          if startsWithComparison r then relation stop ((pos, .true) :: r)
          else .ok ⟨.literal true, r, by simp⟩
      | .false =>
          if startsWithComparison r then relation stop ((pos, .false) :: r)
          else .ok ⟨.literal false, r, by simp⟩
      | .name n =>
          if startsWithBracket r then
            match arguments stop r with
            | .error e => .error e
            | .ok ⟨args, s, h⟩ => .ok ⟨.call n args, s, by simp; omega⟩
          else relation stop ((pos, .name n) :: r)
      | t => relation stop ((pos, t) :: r)

/-- One or more expressions between which a token stands. -/
def separated (sep : Token) (p : Parser Expr) : Parser (List Expr) := fun ts =>
  match p ts with
  | .error e => .error e
  | .ok ⟨e, [], h⟩ => .ok ⟨[e], [], h⟩
  | .ok ⟨e, (pos, t) :: r, h⟩ =>
      if t = sep then
        match separated sep p r with
        | .error e => .error e
        | .ok ⟨es, s, h'⟩ => .ok ⟨e :: es, s, by simp at h; omega⟩
      else .ok ⟨[e], (pos, t) :: r, h⟩
termination_by ts => ts.length
decreasing_by simp at h; omega

/-- A conjunction. -/
def conjunction (stop : Nat) (p : Parser Expr) : Parser Expr := fun ts =>
  match separated .and p ts with
  | .error e => .error e
  | .ok ⟨es, r, h⟩ =>
      match Expr.all es with
      | none => .error ⟨offset stop ts, .noExpression⟩
      | some e => .ok ⟨e, r, h⟩

/-- A disjunction of conjunctions. -/
def disjunction (stop : Nat) (p : Parser Expr) : Parser Expr := fun ts =>
  match separated .or (conjunction stop p) ts with
  | .error e => .error e
  | .ok ⟨es, r, h⟩ =>
      match Expr.any es with
      | none => .error ⟨offset stop ts, .noExpression⟩
      | some e => .ok ⟨e, r, h⟩

/-- A negation, an expression in brackets, or a leaf, when so many brackets and negations may still
be opened. -/
def unary (stop : Nat) : Nat → Parser Expr
  | 0, (pos, .not) :: _ => .error ⟨pos, .tooDeep⟩
  | 0, (pos, .openParen) :: _ => .error ⟨pos, .tooDeep⟩
  | d + 1, (_, .not) :: r =>
      match unary stop d r with
      | .error e => .error e
      | .ok ⟨e, s, h⟩ => .ok ⟨.not e, s, by simp; omega⟩
  | d + 1, (_, .openParen) :: r =>
      match disjunction stop (unary stop d) r with
      | .error e => .error e
      | .ok ⟨e, (_, .closeParen) :: s, h⟩ => .ok ⟨e, s, by simp at h ⊢; omega⟩
      | .ok ⟨_, s, _⟩ => .error (expected .closeParen stop s)
  | _, ts => leaf stop ts

/-- A whole expression. -/
def expression (stop : Nat) (ts : Tokens) : Except FaultAt Expr :=
  if ts = [] then .error ⟨0, .empty⟩
  else
    match disjunction stop (unary stop maxDepth) ts with
    | .error e => .error e
    | .ok ⟨e, [], _⟩ => .ok e
    | .ok ⟨_, (pos, t) :: _, _⟩ => .error ⟨pos, .unexpected t⟩

/-- The tokens of a guard, within the bounds on its length. -/
def tokens (cs : List Char) : Except FaultAt Tokens :=
  if maxLength < byteLength cs then .error ⟨maxLength, .tooLong⟩
  else
    match scan 0 cs with
    | .error e => .error e
    | .ok ts =>
        match ts[maxTokens]? with
        | some (pos, _) => .error ⟨pos, .tooManyTokens⟩
        | none => .ok ts

/-- Read an expression. -/
def parseChars (cs : List Char) : Except FaultAt Expr := do
  let ts ← tokens cs
  expression (byteLength cs) ts

/-- Read an expression. -/
def parseExpr (text : String) : Except Error Expr := (parseChars text.toList).mapError .parse

/-- Read an edge guard: nothing or a blank text means always, and `else` alone is the fallback. -/
def parseEdgeGuard (text : Option String) : Except Error EdgeGuard :=
  match (text.map Text.trim).filter (· ≠ "") with
  | none => .ok .always
  | some text =>
      match tokens text.toList with
      | .error e => .error (.parse e)
      | .ok [(_, .otherwise)] => .ok .otherwise
      | .ok ts => ((expression (byteLength text.toList) ts).map .condition).mapError .parse

/-- A name with literal arguments. -/
structure Call where
  name : String
  args : List Json

/-- The literals of a list of operands. -/
def literals (name : String) : List Operand → Except Error (List Json)
  | [] => .ok []
  | .value v :: r => (literals name r).map (v :: ·)
  | o :: _ => .error (.invalidArgument name ("'" ++ o.shown ++ "' is not a literal"))

/-- Read a name, alone or with arguments in brackets, all of them literals. -/
def parseCall (text : String) : Except Error Call := do
  let stop := byteLength text.toList
  match ← (tokens text.toList).mapError .parse with
  | [] => throw (.parse ⟨0, .emptyCall⟩)
  | [(_, .name n)] => pure ⟨n, []⟩
  | (_, .name n) :: r =>
      let ⟨args, rest, _⟩ ← (arguments stop r).mapError .parse
      let values ← literals n args
      match rest with
      | [] => pure ⟨n, values⟩
      | (pos, t) :: _ => throw (.parse ⟨pos, .unexpected t⟩)
  | (pos, t) :: _ => throw (.parse ⟨pos, .expected .name (some t)⟩)

end Parley.Guard

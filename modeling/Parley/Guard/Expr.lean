import Parley.Guard.Token
import Parley.Json.Printer

/-!
# Guard expressions

* `Expr`, and `EdgeGuard`: when an edge may be taken;
* `Expr.all`, `Expr.any`: conjunction and disjunction of a list, kept flat;
* `Expr.calls`, `Expr.answerKeys`: what an expression calls and reads;
* `Expr.shown`: the text of an expression, which reads back.
-/

namespace Parley.Guard

/-- A value that a guard reads: an answer, a context value or a literal. -/
inductive Operand
  | answer (key : String)
  | context (name : String)
  | value (v : Json)
  deriving Inhabited

/-- A condition on answers and context. -/
inductive Expr
  | literal (b : Bool)
  | present (o : Operand)
  | compare (left : Operand) (op : Comparison) (right : Operand)
  | call (name : String) (args : List Operand)
  | not (e : Expr)
  | and (terms : List Expr)
  | or (terms : List Expr)
  deriving Inhabited

/-- When an edge may be taken: always, under a condition, or when no sibling can be taken. -/
inductive EdgeGuard
  | always
  | condition (e : Expr)
  | otherwise
  deriving Inhabited

namespace Operand

def literal? : Operand → Option Json
  | .value v => some v
  | _ => none

def same : Operand → Operand → Bool
  | .answer a, .answer b => a == b
  | .context a, .context b => a == b
  | .value a, .value b => a.same b
  | _, _ => false

/-- The answer key that an operand reads. -/
def key? : Operand → Option String
  | .answer key => some key
  | _ => none

/-- A text between single quotes, with a backslash before quotes and backslashes. -/
def quoteText (cs : List Char) : List Char :=
  ['\''] ++ cs.flatMap (fun c => if c = '\\' ∨ c = '\'' then ['\\', c] else [c]) ++ ['\'']

def chars : Operand → List Char
  | .answer key => key.toList
  | .context name => "ctx.".toList ++ name.toList
  | .value (.string s) => quoteText s.toList
  | .value v => v.compact.toList

def shown (o : Operand) : String := String.ofList o.chars

end Operand

namespace Expr

/-! ### Flat conjunction and disjunction -/

/-- The terms of a conjunction, or the expression alone. -/
def conjuncts : Expr → List Expr
  | .and terms => terms
  | e => [e]

/-- The terms of a disjunction, or the expression alone. -/
def disjuncts : Expr → List Expr
  | .or terms => terms
  | e => [e]

/-- Join terms: none for no term, and a single term stays as it is. -/
def connect (build : List Expr → Expr) : List Expr → Option Expr
  | [] => none
  | [e] => some e
  | es => some (build es)

/-- The conjunction of a list of expressions. -/
def all (es : List Expr) : Option Expr := connect .and (es.flatMap conjuncts)

/-- The disjunction of a list of expressions. -/
def any (es : List Expr) : Option Expr := connect .or (es.flatMap disjuncts)

def isAlwaysTrue : Expr → Bool
  | .literal true => true
  | _ => false

/-! ### What an expression mentions -/

mutual

/-- The calls of an expression from left to right. -/
def calls : Expr → List (String × List Operand)
  | .call name args => [(name, args)]
  | .not e => calls e
  | .and terms => callsOf terms
  | .or terms => callsOf terms
  | _ => []

def callsOf : List Expr → List (String × List Operand)
  | [] => []
  | e :: r => calls e ++ callsOf r

end

mutual

/-- The operands of an expression from left to right. -/
def operands : Expr → List Operand
  | .literal _ => []
  | .present o => [o]
  | .compare left _ right => [left, right]
  | .call _ args => args
  | .not e => operands e
  | .and terms => operandsOf terms
  | .or terms => operandsOf terms

def operandsOf : List Expr → List Operand
  | [] => []
  | e :: r => operands e ++ operandsOf r

end

/-- Leave out what occurred before. -/
def dedupFrom (seen : List String) : List String → List String
  | [] => []
  | k :: r => if k ∈ seen then dedupFrom seen r else k :: dedupFrom (k :: seen) r

/-- The answer keys that an expression reads, in order of first appearance. -/
def answerKeys (e : Expr) : List String := dedupFrom [] (e.operands.filterMap Operand.key?)

mutual

/-- Equality of expressions, with numbers compared as numbers. -/
def same : Expr → Expr → Bool
  | .literal a, .literal b => a == b
  | .present a, .present b => a.same b
  | .compare a op b, .compare c op' d => a.same c && op == op' && b.same d
  | .call n args, .call m args' => n == m && sameOperands args args'
  | .not a, .not b => same a b
  | .and a, .and b => sameTerms a b
  | .or a, .or b => sameTerms a b
  | _, _ => false

def sameTerms : List Expr → List Expr → Bool
  | [], [] => true
  | a :: r, b :: s => same a b && sameTerms r s
  | _, _ => false

def sameOperands : List Operand → List Operand → Bool
  | [], [] => true
  | a :: r, b :: s => a.same b && sameOperands r s
  | _, _ => false

end

/-! ### The text of an expression -/

/-- How tightly an expression binds. -/
def precedence : Expr → Nat
  | .or _ => 1
  | .and _ => 2
  | _ => 3

/-- Put brackets around a text where they are needed. -/
def bracketed (b : Bool) (cs : List Char) : List Char :=
  if b then ['('] ++ cs ++ [')'] else cs

/-- Lists joined by a separator. -/
def joined (sep : List Char) : List (List Char) → List Char
  | [] => []
  | [x] => x
  | x :: r => x ++ sep ++ joined sep r

mutual

/-- The characters of the text of an expression. -/
def chars : Expr → List Char
  | .literal true => "true".toList
  | .literal false => "false".toList
  | .present o => o.chars ++ " present".toList
  | .compare left op right =>
      left.chars ++ [' '] ++ op.symbol.toList ++ [' '] ++ right.chars
  | .call name args =>
      name.toList ++ ['('] ++ joined ", ".toList (args.map Operand.chars) ++ [')']
  | .not (.present o) => o.chars ++ " missing".toList
  | .not e => "NOT ".toList ++ bracketed (e.precedence < 3) (chars e)
  | .and terms => joined " AND ".toList (termChars 2 terms)
  | .or terms => joined " OR ".toList (termChars 1 terms)

/-- The texts of the terms of a connective; those that bind no tighter stand in brackets. -/
def termChars (level : Nat) : List Expr → List (List Char)
  | [] => []
  | e :: r => bracketed (e.precedence ≤ level) (chars e) :: termChars level r

end

/-- The text of an expression. -/
def shown (e : Expr) : String := String.ofList e.chars

end Expr

namespace EdgeGuard

/-- The text of an edge guard. -/
def shown : EdgeGuard → String
  | .always => "true"
  | .condition e => e.shown
  | .otherwise => "else"

/-- Whether the guard holds whatever the answers are. -/
def isAlwaysTrue : EdgeGuard → Bool
  | .always => true
  | .condition e => e.isAlwaysTrue
  | .otherwise => false

/-- Whether the edge is taken when no sibling can be. -/
def isOtherwise : EdgeGuard → Bool
  | .otherwise => true
  | _ => false

/-- Whether the edge can always be taken when no sibling before it was. -/
def isFallback : EdgeGuard → Bool
  | .otherwise => true
  | g => g.isAlwaysTrue

end EdgeGuard

end Parley.Guard

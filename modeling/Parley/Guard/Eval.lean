import Parley.Guard.Parser
import Parley.Guard.Predicate

/-!
# Evaluating guards

* `Environment`: what a guard can read;
* `Expr.eval`, `EdgeGuard.eval`;
* `compileExpr`, `compileEdgeGuard`: reading a guard and checking its calls.
-/

namespace Parley.Guard

/-- What a guard can read: answers and context values by name. -/
structure Environment where
  answer : String → Option Json
  context : String → Option Json

/-- The value of an operand.  A stored `null` counts as missing, a literal never does. -/
def Environment.resolve (env : Environment) : Operand → Option Json
  | .answer key => (env.answer key).filter (!·.isNull)
  | .context name => (env.context name).filter (!·.isNull)
  | .value v => some v

namespace Expr

mutual

/-- The value of an expression.  A comparison with a missing side is false; the terms of a
connective are evaluated from left to right until one decides. -/
def eval (registry : Registry) (env : Environment) : Expr → Except Error Bool
  | .literal b => .ok b
  | .present o => .ok (env.resolve o).isSome
  | .compare left op right =>
      match env.resolve left, env.resolve right with
      | some l, some r => Guard.compare l op r
      | _, _ => .ok false
  | .call name args => do
      let p ← registry.resolve name args.length
      p.call (args.map env.resolve)
  | .not e => (eval registry env e).map (!·)
  | .and terms => evalAll registry env terms
  | .or terms => evalAny registry env terms

def evalAll (registry : Registry) (env : Environment) : List Expr → Except Error Bool
  | [] => .ok true
  | e :: r =>
      match eval registry env e with
      | .ok true => evalAll registry env r
      | other => other

def evalAny (registry : Registry) (env : Environment) : List Expr → Except Error Bool
  | [] => .ok false
  | e :: r =>
      match eval registry env e with
      | .ok false => evalAny registry env r
      | other => other

end

/-- Check every call of an expression. -/
def check (registry : Registry) (e : Expr) : Except Error Unit :=
  e.calls.forM fun (name, args) => registry.check name args

end Expr

namespace EdgeGuard

/-- The value of an edge guard; a fallback does not hold by itself. -/
def eval (registry : Registry) (env : Environment) : EdgeGuard → Except Error Bool
  | .always => .ok true
  | .condition e => e.eval registry env
  | .otherwise => .ok false

/-- Check every call of an edge guard. -/
def check (registry : Registry) : EdgeGuard → Except Error Unit
  | .condition e => e.check registry
  | _ => .ok ()

end EdgeGuard

/-- Read an expression and check its calls. -/
def compileExpr (registry : Registry) (text : String) : Except Error Expr := do
  let e ← parseExpr text
  e.check registry
  pure e

/-- Read an edge guard and check its calls. -/
def compileEdgeGuard (registry : Registry) (text : Option String) : Except Error EdgeGuard := do
  let g ← parseEdgeGuard text
  g.check registry
  pure g

end Parley.Guard

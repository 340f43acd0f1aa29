import Parley.Guard.Token

/-!
# What can go wrong with a guard

`Error` covers reading, checking and evaluating; `Arity` is the number of arguments that a predicate
takes.
-/

namespace Parley.Guard

/-- How many arguments a predicate takes; without `max` there is no upper bound. -/
structure Arity where
  min : Nat
  max : Option Nat
  deriving DecidableEq

namespace Arity

def exactly (n : Nat) : Arity := ⟨n, some n⟩

def atLeast (n : Nat) : Arity := ⟨n, none⟩

def accepts (a : Arity) (n : Nat) : Bool := decide (a.min ≤ n) && a.max.all fun m => decide (n ≤ m)

def shown (a : Arity) : String :=
  match a.max with
  | some m => if m = a.min then toString m else toString a.min ++ "..=" ++ toString m
  | none => "at least " ++ toString a.min

end Arity

/-- The kinds of values, as messages name them. -/
inductive Kind
  | null
  | boolean
  | number
  | string
  | array
  | object
  deriving DecidableEq

def Kind.name : Kind → String
  | .null => "null"
  | .boolean => "boolean"
  | .number => "number"
  | .string => "string"
  | .array => "array"
  | .object => "object"

inductive Error
  | unknownPredicate (name : String)
  | arity (name : String) (expected : Arity) (got : Nat)
  | typeMismatch (op : Comparison) (left right : Kind)
  | parse (at_ : FaultAt)
  | invalidArgument (name message : String)
  deriving DecidableEq

def Error.message : Error → String
  | .unknownPredicate name => "Unknown predicate: " ++ name
  | .arity name expected got =>
      "Predicate " ++ name ++ " expects " ++ expected.shown ++ " arguments, got " ++ toString got
  | .typeMismatch op left right =>
      "Type mismatch in '" ++ op.symbol ++ "': cannot compare " ++ left.name ++
        " with " ++ right.name
  | .parse e => "Parse error at offset " ++ toString e.position ++ ": " ++ e.fault.message
  | .invalidArgument name message => "Invalid argument for " ++ name ++ ": " ++ message

end Parley.Guard

import Parley.Guard.Expr
import Parley.Guard.Value
import Parley.Pattern.Parser
import Parley.Text.Lowercase
import Parley.Text.Search

/-!
# Predicates

A predicate is a named condition on a list of values, some of which may be missing.  Guards call
predicates of a registry only.

* `Predicate`, `Registry`;
* `Registry.check`: whether a call site is acceptable;
* `Registry.builtin`: `between`, `contains`, `is_number`, `matches`, `non_empty` and `one_of`.
-/

namespace Parley.Guard

/-- A named condition.  `check` refuses call sites before any value is known; `call` decides, and
takes as many values as the arity says. -/
structure Predicate where
  name : String
  arity : Arity
  check : List Operand → Except Error Unit
  call : List (Option Json) → Except Error Bool

/-- The predicates that guards may call, by name. -/
abbrev Registry := Dict Predicate

namespace Predicate

/-- The error of a call with the wrong number of values. -/
def wrongCount (name : String) (arity : Arity) (got : Nat) : Except Error Bool :=
  .error (.arity name arity got)

/-- `contains(a, b)`: an item of an array, or a part of a text in any case. -/
def contains : Predicate where
  name := "contains"
  arity := .exactly 2
  check _ := .ok ()
  call
    | [haystack, needle] =>
        match haystack, needle with
        | some (.array items), some n => .ok (items.any (equal · n))
        | some h, some n =>
            match text? h, text? n with
            | some h, some n =>
                .ok (Text.occursIn (Text.lowercase n).toList (Text.lowercase h).toList)
            | _, _ => .ok false
        | _, _ => .ok false
    | args => wrongCount "contains" (.exactly 2) args.length

/-- `one_of(a, x, ...)`: equal to one of the values that are not missing. -/
def oneOf : Predicate where
  name := "one_of"
  arity := .atLeast 2
  check _ := .ok ()
  call
    | some value :: options => .ok (options.any fun o => o.any (equal value))
    | none :: _ => .ok false
    | [] => wrongCount "one_of" (.atLeast 2) 0

/-- The pattern of a text. -/
def pattern (text : String) : Except Error Pattern :=
  (Pattern.parse? text).mapError fun e => .invalidArgument "matches" e.message

/-- `matches(a, "pattern")`: the pattern matches somewhere in the text of the value. -/
def matching : Predicate where
  name := "matches"
  arity := .exactly 2
  check
    | [_, .value (.string p)] => (pattern p).map fun _ => ()
    | [_, .value _] => .error (.invalidArgument "matches" "pattern must be a string")
    | _ => .ok ()
  call
    | [value, p] =>
        match value.bind text?, p with
        | some text, some (.string p) => (pattern p).map (·.isMatch text)
        | _, _ => .ok false
    | args => wrongCount "matches" (.exactly 2) args.length

/-- `between(a, lo, hi)`: a number within bounds. -/
def between : Predicate where
  name := "between"
  arity := .exactly 3
  check _ := .ok ()
  call
    | [value, lo, hi] =>
        match value.bind number?, lo.bind number?, hi.bind number? with
        | some v, some lo, some hi => .ok (lo.le v && v.le hi)
        | _, _, _ => .ok false
    | args => wrongCount "between" (.exactly 3) args.length

/-- `non_empty(a)`: neither missing nor a blank text, an empty array or an empty object. -/
def nonEmpty : Predicate where
  name := "non_empty"
  arity := .exactly 1
  check _ := .ok ()
  call
    | [value] =>
        match value with
        | none => .ok false
        | some (.string s) => .ok (!Text.isBlankText s)
        | some (.array items) => .ok (!items.isEmpty)
        | some (.object members) => .ok (!members.isEmpty)
        | some _ => .ok true
    | args => wrongCount "non_empty" (.exactly 1) args.length

/-- `is_number(a)`: a number, or a text that reads as one. -/
def isNumber : Predicate where
  name := "is_number"
  arity := .exactly 1
  check _ := .ok ()
  call
    | [value] => .ok (value.bind number?).isSome
    | args => wrongCount "is_number" (.exactly 1) args.length

end Predicate

namespace Registry

/-- Add a predicate; it replaces one of the same name. -/
def register (r : Registry) (p : Predicate) : Registry := r.insert p.name p

/-- The predicates that every guard may call. -/
def builtin : Registry :=
  [Predicate.contains, .oneOf, .matching, .between, .nonEmpty, .isNumber].foldl register []

/-- The predicate of a name, if it takes so many arguments. -/
def resolve (r : Registry) (name : String) (count : Nat) : Except Error Predicate :=
  match r.get? name with
  | none => .error (.unknownPredicate name)
  | some p => if p.arity.accepts count then .ok p else .error (.arity name p.arity count)

/-- Whether a call site names a known predicate with acceptable arguments. -/
def check (r : Registry) (name : String) (args : List Operand) : Except Error Unit := do
  let p ← r.resolve name args.length
  p.check args

end Registry

end Parley.Guard

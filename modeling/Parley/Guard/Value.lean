import Parley.Guard.Error
import Parley.Json.Printer
import Parley.Text.Blank

/-!
# How guards see values

Numbers and texts that read as a number count as numbers.

* `number?`: the number of a value;
* `equal`: equality, numeric where one side is a number;
* `compare`: the six comparisons; an order exists between numbers and between texts.
-/

namespace Parley.Guard

/-- The kind of a value. -/
def kind : Json → Kind
  | .null => .null
  | .bool _ => .boolean
  | .number _ => .number
  | .string _ => .string
  | .array _ => .array
  | .object _ => .object

/-- The finite number that a text writes, blanks around it aside. -/
def numberOfText? (s : String) : Option Binary64 :=
  (Binary64.read? (Text.trim s).toList).filter Binary64.isFinite

/-- The number of a value. -/
def number? : Json → Option Binary64
  | .number n => some n.toBinary64
  | .string s => numberOfText? s
  | _ => none

def isNumber : Json → Bool
  | .number _ => true
  | _ => false

/-- Equality of values; when one is a number, the other counts as a number too. -/
def equal (l r : Json) : Bool :=
  if isNumber l || isNumber r then
    match number? l, number? r with
    | some x, some y => x.eq y
    | _, _ => false
  else l.same r

/-- The order of two texts, by code points. -/
def orderTexts (s t : String) : Ordering :=
  if s < t then .lt else if t < s then .gt else .eq

/-- The order of two numbers. -/
def orderNumbers? (x y : Binary64) : Option Ordering :=
  if x.lt y then some .lt
  else if y.lt x then some .gt
  else if x.eq y then some .eq
  else none

/-- The order of two values, if there is one. -/
def order? (l r : Json) : Option Ordering :=
  match number? l, number? r with
  | some x, some y => orderNumbers? x y
  | _, _ =>
      match l, r with
      | .string s, .string t => some (orderTexts s t)
      | _, _ => none

/-- Whether a comparison holds of two values in this order. -/
def Comparison.admits : Comparison → Ordering → Bool
  | .lt, o => o == .lt
  | .le, o => o != .gt
  | .gt, o => o == .gt
  | .ge, o => o != .lt
  | .eq, o => o == .eq
  | .ne, o => o != .eq

/-- Compare two values. -/
def compare (l : Json) (op : Comparison) (r : Json) : Except Error Bool :=
  match op with
  | .eq => .ok (equal l r)
  | .ne => .ok (!equal l r)
  | op =>
      match order? l r with
      | some o => .ok (op.admits o)
      | none => .error (.typeMismatch op (kind l) (kind r))

/-- The text of a value that has one. -/
def text? : Json → Option String
  | .string s => some s
  | .number n => some (Json.numberText n)
  | .bool b => some (if b then "true" else "false")
  | _ => none

end Parley.Guard

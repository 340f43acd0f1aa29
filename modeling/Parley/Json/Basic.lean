import Parley.Dict
import Parley.Number.Decimal

/-!
# JSON values

An integer and a number with a point are different values, as are two objects with their members in
a different order; a *sorted* value has every object sorted by key.

* `Json.same`: equality of values, in which `0.0` and `-0.0` agree;
* `Json.sorted`: the value with all objects sorted by key;
* `Json.memberIfSome` and the like: members that are left out when they say nothing.
-/

namespace Parley

/-- A JSON number.  Integers stay within `-2^63` and `2^64 - 1`. -/
inductive Number
  | int (i : Int)
  | float (x : Binary64)
  deriving DecidableEq, Inhabited

inductive Json
  | null
  | bool (b : Bool)
  | number (n : Number)
  | string (s : String)
  | array (items : List Json)
  | object (members : List (String × Json))
  deriving Inhabited

namespace Number

/-- The nearest double. -/
def toBinary64 : Number → Binary64
  | .int i => .ofInt i
  | .float x => x

/-- The number of a finite double: an integer where it is whole and below `2^63` in size. -/
def ofBinary64? (x : Binary64) : Option Number :=
  match x.toInt? with
  | some i => some (if i.natAbs < Nat.pow 2 63 then .int i else .float x)
  | none => if x.isFinite then some (.float x) else none

/-- Equality of numbers of the same kind. -/
def same : Number → Number → Bool
  | .int i, .int j => i = j
  | .float x, .float y => x.eq y
  | _, _ => false

/-- The text of a number; there is none for NaN and the infinities. -/
def text? : Number → Option String
  | .int i => some (if i < 0 then "-" ++ toString i.natAbs else toString i.natAbs)
  | .float x => if x.isFinite then some (x.text .document) else none

end Number

namespace Json

def int (i : Int) : Json := .number (.int i)

def nat (n : Nat) : Json := .number (.int n)

/-- A number with a point; what is not finite has no such number. -/
def float (x : Binary64) : Json := if x.isFinite then .number (.float x) else .null

/-- A value, or `null`. -/
def ofOption {α : Type} (f : α → Json) : Option α → Json
  | none => .null
  | some a => f a

def strings (xs : List String) : Json := .array (xs.map .string)

def isNull : Json → Bool
  | .null => true
  | _ => false

mutual

/-- Equality of values: numbers of the same kind are compared as numbers. -/
def same : Json → Json → Bool
  | .null, .null => true
  | .bool a, .bool b => a == b
  | .number a, .number b => a.same b
  | .string a, .string b => a == b
  | .array a, .array b => sameItems a b
  | .object a, .object b => sameMembers a b
  | _, _ => false

def sameItems : List Json → List Json → Bool
  | [], [] => true
  | a :: r, b :: s => same a b && sameItems r s
  | _, _ => false

def sameMembers : List (String × Json) → List (String × Json) → Bool
  | [], [] => true
  | (k, a) :: r, (l, b) :: s => k == l && same a b && sameMembers r s
  | _, _ => false

end

mutual

/-- The value with the members of all objects sorted by key; of two with the same key the later one
stays. -/
def sorted : Json → Json
  | .array items => .array (sortedItems items)
  | .object members => .object (Dict.ofList (sortedMembers members))
  | j => j

def sortedItems : List Json → List Json
  | [] => []
  | j :: r => sorted j :: sortedItems r

def sortedMembers : List (String × Json) → List (String × Json)
  | [] => []
  | (k, j) :: r => (k, sorted j) :: sortedMembers r

end

/-- A member that is written only when there is a value. -/
def memberIfSome {α : Type} (name : String) (f : α → Json) : Option α → List (String × Json)
  | none => []
  | some a => [(name, f a)]

/-- A list that is written only when it is not empty. -/
def memberIfAny (name : String) (items : List String) : List (String × Json) :=
  if items.isEmpty then [] else [(name, .strings items)]

/-- A flag that is written only when it is set. -/
def memberIfTrue (name : String) (b : Bool) : List (String × Json) :=
  if b then [(name, .bool true)] else []

/-- The member of an object with a name. -/
def get? : Json → String → Option Json
  | .object members, k => Dict.get? members k
  | _, _ => none

end Json

end Parley

import Parley.Toml.Scalar

/-!
# Values and tables

A table under construction remembers how it came about, since that decides whether a later line may
add to it (`Origin`).  A value that is written in place, such as a table between braces, is
complete.

* `Value`, `Item`, `Members`;
* `Members.alter`: change the table at the end of a path;
* `Members.assign`: give a value to a key;
* `Scan.value`: the value that a text writes.
-/

namespace Parley.Toml

/-- A value of a settings file.  Of a date or a time it is only known that it is one. -/
inductive Value
  | string (s : String)
  | integer (i : Int)
  | float (x : Binary64)
  | boolean (b : Bool)
  | moment
  | array (items : List Value)
  | table (members : List (String × Value))
  deriving Inhabited

/-- How a table came about: it was declared by a header or braces, a header passed through it, or a
key with points did. -/
inductive Origin
  | declared
  | passed
  | dotted
  deriving DecidableEq

/-- What stands under a key: a complete value, a table, or tables of one name, of which the last is
open. -/
inductive Item
  | value (v : Value)
  | table (origin : Origin) (members : List (String × Item))
  | tables (earlier : List (List (String × Item))) (last : List (String × Item))

/-- The items of a table, in the order in which their keys came up. -/
abbrev Members := List (String × Item)

mutual

/-- The value of an item. -/
def Item.toValue : Item → Value
  | .value v => v
  | .table _ members => .table (Members.toValues members)
  | .tables earlier last =>
      .array (Item.tableValues earlier ++ [.table (Members.toValues last)])

def Members.toValues : List (String × Item) → List (String × Value)
  | [] => []
  | (k, item) :: r => (k, Item.toValue item) :: Members.toValues r

def Item.tableValues : List (List (String × Item)) → List Value
  | [] => []
  | members :: r => .table (Members.toValues members) :: Item.tableValues r

end

namespace Members

/-- The item under a key. -/
def get? (ms : Members) (key : String) : Option Item := List.lookup key ms

/-- Put an item under a key. -/
def set (ms : Members) (key : String) (item : Item) : Members :=
  if ms.any (·.1 = key) then ms.map fun m => if m.1 = key then (key, item) else m
  else ms ++ [(key, item)]

/-- Change the table at the end of a path.  Tables that are missing on the way get the given origin.
A key with points does not pass through a table that was declared. -/
def alter (origin : Origin) (change : Origin → Members → Option Members) :
    List String → Origin → Members → Option Members
  | [], here, ms => change here ms
  | k :: path, _, ms =>
      match ms.get? k with
      | none => (alter origin change path origin []).map fun inner => ms.set k (.table origin inner)
      | some (.value _) => none
      | some (.table o inner) =>
          if origin = .dotted ∧ o = .declared then none
          else (alter origin change path o inner).map fun inner => ms.set k (.table o inner)
      | some (.tables earlier last) =>
          (alter origin change path .declared last).map fun last => ms.set k (.tables earlier last)

/-- Give a value to a key that has none, where the path leads only through tables that keys with
points made. -/
def assign (path : List String) (key : String) (v : Value) (here : Origin) (ms : Members) :
    Option Members :=
  alter .dotted (fun o inner =>
    if o = .dotted ↔ path = [] then none
    else
      match inner.get? key with
      | some _ => none
      | none => some (inner.set key (.value v))) path here ms

end Members

/-! ### Values as texts -/

namespace Scan

/-- Values between brackets, with commas between them and after the last. -/
def arrayOf (p : Scan Value) : Scan Value := do
  char '['
  let items ← separated (char ',') (do
    gap
    let v ← p
    gap
    pure v)
  if items ≠ [] then
    let _ ← optional (char ',')
  gap
  char ']'
  pure (.array items)

/-- Keys with their values between braces, on one line. -/
def tableOf (p : Scan Value) : Scan Value := do
  char '\x7b'
  let entries ← separated (char ',') (do
    let (path, name) ← key
    char '='
    blanks
    let v ← p
    blanks
    pure (path, name, v))
  blanks
  char '\x7d'
  let ms ← entries.foldlM
    (fun ms (path, name, v) => liftM (Members.assign path name v .declared ms)) []
  pure (.table (Members.toValues ms))

/-- A value that holds no others. -/
def scalar : Scan Value :=
  (.string <$> text)
  <|> (do moment; pure .moment)
  <|> (.float <$> (decimal <|> special))
  <|> (.integer <$> integer)
  <|> (do word "true"; pure (.boolean true))
  <|> (do word "false"; pure (.boolean false))

/-- A value in which arrays and tables nest at most so deep. -/
def valueWithin : Nat → Scan Value
  | 0 => scalar
  | depth + 1 => arrayOf (valueWithin depth) <|> tableOf (valueWithin depth) <|> scalar

/-- A value. -/
def value : Scan Value := valueWithin (maxDepth - 1)

end Scan

end Parley.Toml

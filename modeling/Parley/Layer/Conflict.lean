import Parley.Layer.Overlay
import Parley.Text.Split

/-!
# Conflicts between layers

While layers are laid over one another, a log keeps for each field of an element the layer that set
it last.  A conflict arises where a layer replaces a value that has some content by another value.
A member of a `ui` object is a field of its own, named by the way to it with points between the
names.

* `Conflict`, `Origins`, `Origins.find?`;
* `Log.field`, `Log.settings`: what laying a value, or the settings of a patch, over others adds to
  a log.
-/

namespace Parley

/-- Two layers disagree on a field: `winner` replaces what `loser` had set. -/
structure Conflict where
  element : String
  field : String
  loser : String
  lost : Json
  winner : String
  won : Json

namespace Conflict

def resolution (c : Conflict) : String := c.winner ++ " wins"

def toJson (c : Conflict) : Json :=
  .object [
    ("element", .string c.element), ("field", .string c.field), ("layer_a", .string c.loser),
    ("value_a", c.lost), ("layer_b", .string c.winner), ("value_b", c.won),
    ("resolution", .string c.resolution)]

end Conflict

namespace Json

/-- Whether a value is null, false, zero or empty. -/
def isVoid : Json → Bool
  | .null => true
  | .bool b => !b
  | .number n => n.toBinary64.eq (.ofNat 0)
  | .string s => s = ""
  | .array items => items.isEmpty
  | .object members => members.isEmpty

end Json

/-- The layer that set each field last. -/
abbrev Origins := Dict String

/-- The layer that set a field last, or else the closest field around it. -/
def Origins.find? (o : Origins) (field : String) : Option String :=
  (Text.heads '.' field).findSome? fun f => Dict.get? o f

/-- The origins of the fields of an element, and the conflicts found. -/
structure Log where
  origins : Origins := []
  conflicts : List Conflict := []

namespace Log

/-- The name of the element and of the layer that is laid over it. -/
structure Site where
  element : String
  layer : String

/-- Note that the layer sets a field to a value, in place of another one if there was one. -/
def record (site : Site) (field : String) (previous : Option Json) (value : Json) (log : Log) :
    Log :=
  let origins := log.origins.insert field site.layer
  match previous with
  | none => { log with origins := origins }
  | some old =>
      if old.isVoid || old.same value then { log with origins := origins }
      else
        let loser := (log.origins.find? field).getD "base"
        ⟨origins, log.conflicts ++ [⟨site.element, field, loser, old, site.layer, value⟩]⟩

mutual

/-- Note that the layer lays a value over a field: member by member where both are objects. -/
def field (site : Site) (name : String) (previous : Option Json) : Json → Log → Log
  | .object upper, log =>
      match previous with
      | some (.object lower) => members site name lower upper log
      | previous => record site name previous (.object upper) log
  | value, log => record site name previous value log

/-- Note that the layer lays members over the members of an object. -/
def members (site : Site) (name : String) (lower : Dict Json) : List (String × Json) → Log → Log
  | [], log => log
  | (k, value) :: r, log =>
      members site name lower r (field site (name ++ "." ++ k) (lower.get? k) value log)

end

/-- Note that the layer lays settings over other ones. -/
def settings (site : Site) (lower upper : Dict Json) (log : Log) : Log :=
  upper.foldl (fun log (name, value) => field site name (lower.get? name) value log) log

end Log

end Parley

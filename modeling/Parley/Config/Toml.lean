import Parley.Config.Codec
import Parley.Config.Reference
import Parley.Toml.Document
import Parley.Toml.Written

/-!
# Settings files

* `Settings.ofFile`: the settings that the text of a file gives, with references to variables
  replaced;
* `Settings.fileText`: the settings as the text of a file.
-/

namespace Parley

namespace Toml

/-- Arrays and tables that hold nothing. -/
def Value.isEmptyContainer : Value → Bool
  | .array [] => true
  | .table [] => true
  | _ => false

mutual

/-- A value as a document.  A name whose value is an empty container may stand for the name alone,
which documents write with `null`; a date or time is an object of which no member is known. -/
def Value.document : Value → Json.Document
  | .string s => .string (some s)
  | .integer i => .number (some (.int i))
  | .float x => .number (some (.float x))
  | .boolean b => .bool b
  | .moment => .object [] none
  | .array items => .array (itemDocuments items) none
  | .table [(k, v)] =>
      if v.isEmptyContainer then .object [(k, .null)] none else .object [(k, Value.document v)] none
  | .table members => .object (memberDocuments members) none

def itemDocuments : List Value → List Json.Document
  | [] => []
  | v :: r => Value.document v :: itemDocuments r

def memberDocuments : List (String × Value) → List (String × Json.Document)
  | [] => []
  | (k, v) :: r => (k, Value.document v) :: memberDocuments r

end

end Toml

/-- Why there are no settings. -/
inductive SettingsError
  | notFound (path : String)
  | unreadable
  | fault (fault : SettingsFault)

def SettingsError.message : SettingsError → String
  | .notFound path => "Config file not found: " ++ path
  | .unreadable => "Config error: TOML parse error"
  | .fault f => "Config error: " ++ f.message

namespace Settings

/-- The number of values in each section. -/
def sectionSizes : List (String × Nat) :=
  [("traversal", 3), ("path_policy", 3), ("lanes", 3), ("store", 2), ("log", 1)]

/-- A section that stands as an array gives its values in order; what is left over does not
matter. -/
def withoutSurplus (name : String) : Toml.Value → Toml.Value
  | .array items => .array (((sectionSizes.lookup name).map items.take).getD items)
  | v => v

/-- The settings of a text without references. -/
def ofToml? (text : String) : Option Settings := do
  let members ← Toml.parse? text
  let sections := members.map fun (name, v) => (name, (withoutSurplus name v).document)
  (reader (.object sections none)).toOption

/-- The settings that the text of a file gives. -/
def ofFile (env : String → Option String) (text : String) : Except SettingsError Settings :=
  match ofToml? (Reference.expand env text) with
  | none => .error .unreadable
  | some s => (s.check.mapError .fault).map fun _ => s

/-- The settings as the text of a file. -/
def fileText (s : Settings) : String :=
  "\n".intercalate [
    Toml.tableText "traversal" [
      ("max_auto_steps", toString s.traversal.maxAutoSteps),
      ("min_confidence", Toml.floatOf s.traversal.minConfidence),
      ("retry_prompt", Toml.textOf s.traversal.retryPrompt)],
    Toml.tableText "path_policy" [
      ("lock_threshold", Toml.floatOf s.pathPolicy.lockThreshold),
      ("decay", Toml.floatOf s.pathPolicy.decay),
      ("switch_penalty", Toml.floatOf s.pathPolicy.switchPenalty)],
    Toml.tableText "lanes" [
      ("buffer", toString s.lanes.buffer),
      ("idle_timeout_ms", toString s.lanes.idleTimeout),
      ("graph_cache", toString s.lanes.graphCache)],
    Toml.tableText "store" [
      ("backend", Toml.textOf s.store.backend.name), ("path", Toml.textOf s.store.path)],
    Toml.tableText "log" [("filter", Toml.textOf s.log.filter)]]

end Settings

end Parley

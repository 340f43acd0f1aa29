import Parley.Config.Basic
import Parley.Json.Reader

/-!
# Settings as JSON
-/

namespace Parley

open Json

namespace TraversalSettings

def toJson (s : TraversalSettings) : Json :=
  .object [
    ("max_auto_steps", .nat s.maxAutoSteps), ("min_confidence", .float s.minConfidence),
    ("retry_prompt", .string s.retryPrompt)]

def reader : Reader TraversalSettings :=
  let d : TraversalSettings := {}
  (TraversalSettings.mk
    <$> Record.defaulted "max_auto_steps" (.natBits 64) d.maxAutoSteps
    <*> Record.defaulted "min_confidence" .single d.minConfidence
    <*> Record.defaulted "retry_prompt" .text d.retryPrompt).reader

end TraversalSettings

namespace PolicySettings

def toJson (s : PolicySettings Binary64) : Json :=
  .object [
    ("lock_threshold", .float s.lockThreshold), ("decay", .float s.decay),
    ("switch_penalty", .float s.switchPenalty)]

def reader : Reader (PolicySettings Binary64) :=
  let d := PolicySettings.standard
  (PolicySettings.mk
    <$> Record.defaulted "lock_threshold" .float d.lockThreshold
    <*> Record.defaulted "decay" .float d.decay
    <*> Record.defaulted "switch_penalty" .float d.switchPenalty).reader

end PolicySettings

namespace LaneSettings

def toJson (s : LaneSettings) : Json :=
  .object [
    ("buffer", .nat s.buffer), ("idle_timeout_ms", .nat s.idleTimeout),
    ("graph_cache", .nat s.graphCache)]

def reader : Reader LaneSettings :=
  let d : LaneSettings := {}
  (LaneSettings.mk
    <$> Record.defaulted "buffer" (.natBits 64) d.buffer
    <*> Record.defaulted "idle_timeout_ms" (.natBits 64) d.idleTimeout
    <*> Record.defaulted "graph_cache" (.natBits 64) d.graphCache).reader

end LaneSettings

namespace StoreSettings

def toJson (s : StoreSettings) : Json :=
  .object [("backend", .string s.backend.name), ("path", .string s.path)]

def reader : Reader StoreSettings :=
  let d : StoreSettings := {}
  (StoreSettings.mk
    <$> Record.defaulted "backend" (.choice Backend.ofName?) d.backend
    <*> Record.defaulted "path" .text d.path).reader

end StoreSettings

namespace LogSettings

def toJson (s : LogSettings) : Json := .object [("filter", .string s.filter)]

def reader : Reader LogSettings :=
  let d : LogSettings := {}
  (LogSettings.mk <$> Record.defaulted "filter" .text d.filter).reader

end LogSettings

namespace Settings

def toJson (s : Settings) : Json :=
  .object [
    ("traversal", s.traversal.toJson), ("path_policy", s.pathPolicy.toJson),
    ("lanes", s.lanes.toJson), ("store", s.store.toJson), ("log", s.log.toJson)]

def reader : Reader Settings :=
  let d : Settings := {}
  (Settings.mk
    <$> Record.defaulted "traversal" TraversalSettings.reader d.traversal
    <*> Record.defaulted "path_policy" PolicySettings.reader d.pathPolicy
    <*> Record.defaulted "lanes" LaneSettings.reader d.lanes
    <*> Record.defaulted "store" StoreSettings.reader d.store
    <*> Record.defaulted "log" LogSettings.reader d.log).reader

end Settings

end Parley

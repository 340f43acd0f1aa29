import Parley.Number.Binary64

/-!
# Settings

* `Settings`: traversal, path policy, lanes, store and log;
* `Settings.check`: refuses values that the engine cannot run with;
* `StoreSettings.resolved`: the path of the database file.
-/

namespace Parley

/-- How a turn is processed: at most `maxAutoSteps` nodes are passed, and proposals below
`minConfidence` are ignored. -/
structure TraversalSettings where
  maxAutoSteps : Nat := 64
  minConfidence : Binary64 := .ofNat 0
  retryPrompt : String := "Sorry, I couldn't use that answer. Could you try again?"
  deriving DecidableEq, Inhabited

/-- How a path is chosen: votes needed, what is left of the votes for other paths after each signal,
and votes needed in addition after each change of mind. -/
structure PolicySettings (ν : Type) where
  lockThreshold : ν
  decay : ν
  switchPenalty : ν
  deriving DecidableEq, Inhabited

/-- Two votes, halved by each signal for another path, one more after each change of mind. -/
def PolicySettings.standard : PolicySettings Binary64 :=
  ⟨.ofNat 2, Binary64.ofNat 1 / .ofNat 2, .ofNat 1⟩

/-- How threads are served: queue length, idle time in milliseconds, and number of graphs kept. -/
structure LaneSettings where
  buffer : Nat := 32
  idleTimeout : Nat := 300000
  graphCache : Nat := 256
  deriving DecidableEq, Inhabited

/-- Where flows and conversations are kept. -/
inductive Backend
  | memory
  | sqlite
  deriving DecidableEq, Inhabited

def Backend.name : Backend → String
  | .memory => "memory"
  | .sqlite => "sqlite"

def Backend.ofName? : String → Option Backend
  | "memory" => some .memory
  | "sqlite" => some .sqlite
  | _ => none

structure StoreSettings where
  backend : Backend := .memory
  path : String := "~/.dialflow/dialflow.db"
  deriving DecidableEq, Inhabited

structure LogSettings where
  filter : String := "dialflow=info,warn"
  deriving DecidableEq, Inhabited

/-- All settings. -/
structure Settings where
  traversal : TraversalSettings := {}
  pathPolicy : PolicySettings Binary64 := .standard
  lanes : LaneSettings := {}
  store : StoreSettings := {}
  log : LogSettings := {}
  deriving DecidableEq, Inhabited

/-- The path of the database file: a leading `~/` stands for the home directory. -/
def StoreSettings.resolved (s : StoreSettings) (home : Option String) : String :=
  match s.path.toList, home with
  | '~' :: '/' :: rest, some home =>
      match rest with
      | '/' :: _ => String.ofList rest
      | _ => home ++ (if home = "" || home.endsWith "/" then "" else "/") ++ String.ofList rest
  | _, _ => s.path

/-- A value that the engine cannot run with. -/
inductive SettingsFault
  | lockThreshold
  | decay
  | switchPenalty
  | maxAutoSteps
  | laneBuffer
  | idleTimeout
  | graphCache
  deriving DecidableEq

def SettingsFault.message : SettingsFault → String
  | .lockThreshold => "path_policy.lock_threshold must be positive"
  | .decay => "path_policy.decay must be within 0.0..=1.0"
  | .switchPenalty => "path_policy.switch_penalty must not be negative"
  | .maxAutoSteps => "traversal.max_auto_steps must be at least 1"
  | .laneBuffer => "lanes.buffer must be at least 1"
  | .idleTimeout => "lanes.idle_timeout_ms must be at least 1"
  | .graphCache => "lanes.graph_cache must be at least 1"

/-- Refuse values that the engine cannot run with. -/
def Settings.check (s : Settings) : Except SettingsFault Unit :=
  let zero := Binary64.ofNat 0
  let policy := s.pathPolicy
  if policy.lockThreshold.le zero then .error .lockThreshold
  else if !(zero.le policy.decay && policy.decay.le (.ofNat 1)) then .error .decay
  else if policy.switchPenalty.lt zero then .error .switchPenalty
  else if s.traversal.maxAutoSteps = 0 then .error .maxAutoSteps
  else if s.lanes.buffer = 0 then .error .laneBuffer
  else if s.lanes.idleTimeout = 0 then .error .idleTimeout
  else if s.lanes.graphCache = 0 then .error .graphCache
  else .ok ()

end Parley

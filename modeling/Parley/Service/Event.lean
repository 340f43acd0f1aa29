import Parley.Conversation.Codec
import Parley.Store.Basic

/-!
# Events

What subscribers are told about conversations and versions.
-/

namespace Parley

/-- Something that happened. -/
inductive Event
  | turnProcessed (key : ThreadKey) (turn : Nat) (node : NodeId)
  | pathLocked (key : ThreadKey) (path : PathId)
  | escalated (key : ThreadKey) (reason : EscalationReason)
  | ended (key : ThreadKey) (node : NodeId)
  | published (tenant : TenantId) (flow : FlowId) (version : Version) (description : String)
  | rejected (tenant : TenantId) (flow : FlowId) (baseVersion : Version) (error : String)
  deriving DecidableEq

namespace Event

/-- The members of an event of a thread. -/
def threadEvent (name : String) (key : ThreadKey) (more : List (String × Json)) : Json :=
  .object (
    [("event", .string name), ("tenant", .string key.tenant), ("thread", .string key.thread)] ++
      more)

/-- The members of an event of a flow. -/
def flowEvent (name : String) (tenant : TenantId) (flow : FlowId) (more : List (String × Json)) :
    Json :=
  .object ([("event", .string name), ("tenant", .string tenant), ("flow", .string flow)] ++ more)

def toJson : Event → Json
  | .turnProcessed key turn node =>
      threadEvent "turn_processed" key [("turn", .nat turn), ("node", .string node)]
  | .pathLocked key path => threadEvent "path_locked" key [("path", .string path)]
  | .escalated key reason => threadEvent "escalated" key [("reason", reason.toJson)]
  | .ended key node => threadEvent "conversation_terminal" key [("node", .string node)]
  | .published tenant flow version description =>
      flowEvent "version_published" tenant flow
        [("version", .nat version), ("description", .string description)]
  | .rejected tenant flow baseVersion error =>
      flowEvent "mutation_rejected" tenant flow
        [("base_version", .nat baseVersion), ("error", .string error)]

end Event

end Parley

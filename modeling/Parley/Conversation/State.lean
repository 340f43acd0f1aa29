import Parley.Conversation.Path

/-!
# Conversations

A conversation is pinned to one version of a flow.  It stands at a node, inside the subgraphs that
it has entered, and holds the answers given so far.

* `Status`, `Frame`, `Position`, `Answer`, `Conversation`;
* `Position.scope`: the scope in which a conversation stands.
-/

namespace Parley

/-- Why a conversation is handed to a person. -/
inductive EscalationReason
  | requested
  | node (id : NodeId)
  | deadEnd (id : NodeId)
  deriving DecidableEq, Inhabited

/-- Whether a conversation waits for the user, for a person or for nothing more. -/
inductive Status
  | awaitingInput
  | escalated (reason : EscalationReason)
  | terminal (node : NodeId)
  deriving DecidableEq, Inhabited

namespace Status

def isTerminal : Status → Bool
  | .terminal _ => true
  | _ => false

def isEscalated : Status → Bool
  | .escalated _ => true
  | _ => false

end Status

/-- A subgraph that was entered, and the node around it that entered it. -/
structure Frame where
  scope : ScopeId
  caller : NodeId
  deriving DecidableEq, Inhabited

/-- A node, and the frames around it, innermost first. -/
structure Position where
  node : NodeId
  stack : List Frame := []
  deriving DecidableEq, Inhabited

/-- The scope of the innermost frame, or the root. -/
def stackScope : List Frame → ScopeId
  | [] => .root
  | f :: _ => f.scope

/-- The scope in which a position lies. -/
def Position.scope (p : Position) : ScopeId := stackScope p.stack

/-- A value that was accepted, with the turn and the confidence of its proposal. -/
structure Answer where
  value : Json
  turn : Nat
  confidence : Binary64
  deriving Inhabited

/-- All that is kept of a conversation between turns. -/
structure Conversation where
  flow : FlowId
  version : Version
  status : Status := .awaitingInput
  position : Position
  path : PathState Binary64 := {}
  turn : Nat := 0
  answers : Dict Answer := []
  context : Dict Json := []
  deriving Inhabited

namespace Conversation

def scope (c : Conversation) : ScopeId := c.position.scope

/-- The value of an answer. -/
def value? (c : Conversation) (key : AnswerKey) : Option Json :=
  (c.answers.get? key).map Answer.value

end Conversation

end Parley

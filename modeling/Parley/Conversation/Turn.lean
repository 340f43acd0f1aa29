import Parley.Conversation.State

/-!
# Turns

A turn brings proposals for answers, perhaps a signal for a path, and perhaps the wish for a person.
Its outcome tells what became of them and where the conversation stands.
-/

namespace Parley

/-- A proposed answer. -/
structure Proposal where
  key : AnswerKey
  value : Json
  confidence : Binary64 := .ofNat 1
  deriving Inhabited

/-- What a turn brings. -/
structure TurnInput where
  proposals : List Proposal := []
  path : Option PathId := none
  escalate : Bool := false
  deriving Inhabited

/-- Why a proposal is not looked at. -/
inductive IgnoreReason
  | lowConfidence
  | unknownKey
  deriving DecidableEq, Inhabited

def IgnoreReason.name : IgnoreReason → String
  | .lowConfidence => "low_confidence"
  | .unknownKey => "unknown_key"

structure IgnoredProposal where
  key : AnswerKey
  reason : IgnoreReason
  deriving DecidableEq, Inhabited

/-- An answer that the validator of its node refused. -/
structure Rejection where
  key : AnswerKey
  node : NodeId
  reason : String
  deriving DecidableEq, Inhabited

/-- What became of the proposals of a turn.  `held` says that an answer of the current node was
refused. -/
structure Review where
  clarification : Option String := none
  committed : List AnswerKey := []
  rejected : List Rejection := []
  ignored : List IgnoredProposal := []
  held : Bool := false
  deriving DecidableEq, Inhabited

/-- The nodes passed in a turn, and the actions among them, in order. -/
structure Trail where
  visited : List NodeId := []
  actions : List NodeId := []
  deriving DecidableEq, Inhabited

/-- What happened in a turn, and where the conversation stands after it. -/
structure Outcome where
  turn : Nat
  status : Status
  node : NodeId
  scope : ScopeId
  prompt : Option String
  review : Review
  trail : Trail
  path : PathDecision
  deriving DecidableEq, Inhabited

/-- The text for the user: what to do about a refused answer, or else the prompt. -/
def Outcome.reply (o : Outcome) : Option String := o.review.clarification.or o.prompt

end Parley

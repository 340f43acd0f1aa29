import Parley.Conversation.Turn
import Parley.Flow.Codec

/-!
# Conversations and turns as JSON

A position is written with the outermost frame first.
-/

namespace Parley

open Json

namespace EscalationReason

def toJson : EscalationReason → Json
  | .requested => .object [("kind", .string "extractor_signal")]
  | .node id => .object [("kind", .string "node"), ("node", .string id)]
  | .deadEnd id => .object [("kind", .string "dead_end"), ("node", .string id)]

def recordOf? : String → Option (Record EscalationReason)
  | "extractor_signal" => some (pure .requested)
  | "node" => some (.node <$> .required "node" .text)
  | "dead_end" => some (.deadEnd <$> .required "node" .text)
  | _ => none

def reader : Reader EscalationReason := Record.tagged "kind" recordOf?

end EscalationReason

namespace Status

def toJson : Status → Json
  | .awaitingInput => .object [("status", .string "awaiting_input")]
  | .escalated reason => .object [("status", .string "escalated"), ("reason", reason.toJson)]
  | .terminal node => .object [("status", .string "terminal"), ("node", .string node)]

def recordOf? : String → Option (Record Status)
  | "awaiting_input" => some (pure .awaitingInput)
  | "escalated" => some (.escalated <$> .required "reason" EscalationReason.reader)
  | "terminal" => some (.terminal <$> .required "node" .text)
  | _ => none

def reader : Reader Status := Record.tagged "status" recordOf?

end Status

namespace Frame

def toJson (f : Frame) : Json :=
  .object [("scope", .string f.scope.text), ("caller", .string f.caller)]

def reader : Reader Frame :=
  (Frame.mk <$> Record.required "scope" .scope <*> Record.required "caller" .text).reader

end Frame

namespace PathState

def members (s : PathState Binary64) : List (String × Json) := [
  ("active_path", .ofOption .string s.active),
  ("path_locked", .bool s.isLocked),
  ("path_votes", .object (s.votes.mapValues .float)),
  ("path_switches", .nat s.switches.toNat)]

def record : Record (PathState Binary64) :=
  PathState.mk
    <$> .optional "active_path" .text
    <*> .defaulted "path_locked" .bool false
    <*> .defaulted "path_votes" (.dict .float) []
    <*> .defaulted "path_switches" .uint32 0

def reader : Reader (PathState Binary64) := record.reader

end PathState

namespace PathDecision

def toJson : PathDecision → Json
  | .noSignal => .object [("decision", .string "no_signal")]
  | .ignored path => .object [("decision", .string "ignored"), ("path", .string path)]
  | .tentative path switched =>
      .object [("decision", .string "tentative"), ("path", .string path),
        ("switched", .bool switched)]
  | .locked path => .object [("decision", .string "locked"), ("path", .string path)]

end PathDecision

namespace Answer

def toJson (a : Answer) : Json :=
  .object [("value", a.value), ("turn", .nat a.turn), ("confidence", .float a.confidence)]

def reader : Reader Answer :=
  (Answer.mk
    <$> Record.required "value" .json
    <*> Record.required "turn" (.natBits 64)
    <*> Record.required "confidence" .single).reader

end Answer

namespace Conversation

/-- All of a conversation but answers and context. -/
def stateJson (c : Conversation) : Json :=
  .object (
    [("flow_id", .string c.flow), ("version", .nat c.version), ("status", c.status.toJson),
      ("current_node_id", .string c.position.node),
      ("call_stack", .array (c.position.stack.reverse.map Frame.toJson))]
      ++ c.path.members
      ++ [("turn", .nat c.turn)])

def toJson (c : Conversation) : Json :=
  .object [
    ("state", c.stateJson), ("answers", .object (c.answers.mapValues Answer.toJson)),
    ("context", .object c.context)]

/-- A conversation without answers and context, from its parts as they are written. -/
def ofState (flow : FlowId) (version : Version) (status : Status) (node : NodeId)
    (frames : List Frame) (path : PathState Binary64) (turn : Nat) : Conversation :=
  { flow, version, status, position := ⟨node, frames.reverse⟩, path, turn }

def stateReader : Reader Conversation :=
  Record.objectReader (
    ofState
      <$> .required "flow_id" .text
      <*> .required "version" .version
      <*> .required "status" Status.reader
      <*> .required "current_node_id" .text
      <*> .defaulted "call_stack" (.list Frame.reader) []
      <*> PathState.record
      <*> .defaulted "turn" (.natBits 64) 0)

def reader : Reader Conversation :=
  Record.reader (
    (fun c answers context => { c with answers, context })
      <$> .required "state" stateReader
      <*> .defaulted "answers" (.dict Answer.reader) []
      <*> .defaulted "context" .jsonObject [])

end Conversation

namespace Proposal

def toJson (p : Proposal) : Json :=
  .object [("key", .string p.key), ("value", p.value), ("confidence", .float p.confidence)]

def reader : Reader Proposal :=
  (Proposal.mk
    <$> Record.required "key" .text
    <*> Record.required "value" .json
    <*> Record.defaulted "confidence" .single (.ofNat 1)).reader

end Proposal

namespace TurnInput

def toJson (t : TurnInput) : Json :=
  .object [
    ("proposed_answers", .array (t.proposals.map Proposal.toJson)),
    ("proposed_path", .ofOption .string t.path), ("escalate", .bool t.escalate)]

def reader : Reader TurnInput :=
  (TurnInput.mk
    <$> Record.defaulted "proposed_answers" (.list Proposal.reader) []
    <*> Record.optional "proposed_path" .text
    <*> Record.defaulted "escalate" .bool false).reader

end TurnInput

namespace Outcome

def rejectionJson (r : Rejection) : Json :=
  .object [("key", .string r.key), ("node", .string r.node), ("reason", .string r.reason)]

def ignoredJson (p : IgnoredProposal) : Json :=
  .object [("key", .string p.key), ("reason", .string p.reason.name)]

def members (o : Outcome) : List (String × Json) :=
  [("turn", .nat o.turn), ("status", o.status.toJson), ("node", .string o.node),
    ("scope", .string o.scope.text)]
    ++ memberIfSome "prompt" .string o.prompt
    ++ memberIfSome "clarification" .string o.review.clarification
    ++ [("committed", .strings o.review.committed),
      ("rejected", .array (o.review.rejected.map rejectionJson)),
      ("ignored", .array (o.review.ignored.map ignoredJson)),
      ("actions", .strings o.trail.actions), ("visited", .strings o.trail.visited),
      ("path", o.path.toJson)]

def toJson (o : Outcome) : Json := .object o.members

end Outcome

end Parley

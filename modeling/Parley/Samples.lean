import Parley.Conversation.Turn
import Parley.Flow.Build

/-!
# Sample flows

* `Samples.qualification`: questions, a fork with two paths, an escalation and two ends;
* `Samples.guards`: a decision with or without a fallback;
* `Samples.survey`: a validated question with an edge for invalid answers;
* `Samples.detour`: a question and a subgraph with an action;
* `Samples.turns`: a script of turns.
-/

namespace Parley.Samples

/-- The path of a small customer. -/
def smallTeam : Flow where
  nodes := [(Node.question "seats" "seats" "How many seats do you need?").withValidator "integer"]
  edges := [.exit "seats"]

/-- The path of a large customer. -/
def enterprise : Flow where
  nodes := [.question "legal" "legal_contact" "Who handles procurement on your side?"]
  edges := [.exit "legal"]

/-- Ask for name and budget, then hand over, go down a path or end. -/
def qualification : Flow where
  id := "qualification"
  version := 1
  nodes := [
    .question "name" "name" "What's your name?",
    (Node.question "budget" "budget" "On a scale of 1 to 10, how big is your budget?").withValidator
      "range(1, 10)",
    .decision "route",
    (Node.escalation "handoff").withPrompt "Connecting you with our team.",
    .pathFork "fork" ["smb", "enterprise"] "Tell me a little about your team.",
    (Node.terminal "nurture").withPrompt "Thanks, we'll stay in touch.",
    (Node.terminal "done").withPrompt "Great, a specialist will follow up."]
  edges := [
    .always "name" "budget",
    .always "budget" "route",
    .guarded "route" "handoff" "budget == 10",
    .guarded "route" "fork" "budget >= 5",
    .otherwise "route" "nurture",
    .always "fork" "done"]
  subgraphs := [("enterprise", enterprise), ("smb", smallTeam)]

/-- A decision between two ends, the second of them by a fallback or not at all. -/
def guards (withFallback : Bool) : Flow where
  id := "guards"
  version := 1
  nodes := [.question "ask" "x" "Pick a number", .decision "route", .terminal "a", .terminal "b"]
  edges := [.always "ask" "route", .guarded "route" "a" "x == 1"]
    ++ if withFallback then [.otherwise "route" "b"] else []

/-- A question with a range and a hint for answers outside it. -/
def survey : Flow where
  id := "survey"
  version := 1
  nodes := [
    (Node.question "score" "score" "How likely are you to recommend us?").withValidator
      "range(1, 10)",
    (Node.terminal "score_help").withPrompt "Please pick a whole number from 1 to 10.",
    .terminal "thanks"]
  edges := [.forInvalid "score" "score_help", .always "score" "thanks"]

/-- An action on the way. -/
def side : Flow where
  nodes := [.action "note"]
  edges := [.exit "note"]

/-- A question, a detour through a subgraph, and the end. -/
def detour (version : Version) : Flow where
  id := "detour"
  version := version
  nodes := [
    .question "ask" "ready" "Are you ready?",
    .subgraphRef "call" "side",
    .terminal "end"]
  edges := [.always "ask" "call", .always "call" "end"]
  subgraphs := [("side", side)]

/-- A new conversation at a node of a flow. -/
def conversationAt (f : Flow) (node : NodeId) : Conversation :=
  { flow := f.id, version := f.version, position := ⟨node, []⟩ }

/-- A turn with one answer. -/
def answerTurn (key : AnswerKey) (value : Json) : TurnInput :=
  { proposals := [⟨key, value, .ofNat 1⟩] }

/-- A turn with a signal for a path. -/
def signalTurn (path : PathId) : TurnInput := { path := some path }

/-- A name, then one signal a turn. -/
def turns (paths : List PathId) : List TurnInput :=
  answerTurn "name" (.string "Ada") :: paths.map signalTurn

/-- Answers as if given before the first turn. -/
def answers (values : List (AnswerKey × Json)) : Dict Answer :=
  Dict.ofList (values.map fun (key, value) => (key, ⟨value, 0, .ofNat 1⟩))

end Parley.Samples

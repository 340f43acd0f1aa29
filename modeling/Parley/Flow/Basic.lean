import Parley.Flow.Scope
import Parley.Flow.Timestamp
import Parley.Json.Basic
import Parley.Text.Blank

/-!
# Flows

A flow is a versioned graph of conversation steps.  Its nodes ask, decide, act, enter subgraphs or
end the conversation; its edges lead from node to node, perhaps under a guard.

* `Node`, `NodeKind`, `Edge`, `Flow`;
* `VersionRecord`: how a version came about;
* `Flow.scope?`: the graph at an address.
-/

namespace Parley

abbrev NodeId := String

abbrev AnswerKey := String

abbrev PathId := String

abbrev FlowId := String

abbrev Version := Nat

/-- The target of an edge that returns from a subgraph to its caller. -/
def exitTarget : NodeId := "__exit__"

/-- The guard text of an edge that is taken when no sibling can be. -/
def fallbackGuard : String := "else"

/-- What a node does. -/
inductive NodeKind
  | question
  | decision
  | action
  | subgraphRef
  | terminal
  | escalation
  deriving DecidableEq, Repr, Inhabited

def NodeKind.name : NodeKind → String
  | .question => "question"
  | .decision => "decision"
  | .action => "action"
  | .subgraphRef => "subgraphRef"
  | .terminal => "terminal"
  | .escalation => "escalation"

def NodeKind.ofName? : String → Option NodeKind
  | "question" => some .question
  | "decision" => some .decision
  | "action" => some .action
  | "subgraphRef" => some .subgraphRef
  | "terminal" => some .terminal
  | "escalation" => some .escalation
  | _ => none

/-- A step of a conversation.  `guard`, `when`, `extraGuards` and `dependsOn` together say when the
node is eligible; `subgraph` and `paths` say what a `subgraphRef` enters; `ui` is presentation
only. -/
structure Node where
  id : NodeId
  kind : NodeKind
  key : Option AnswerKey := none
  prompt : Option String := none
  guard : Option String := none
  when : Option String := none
  dependsOn : List AnswerKey := []
  extraGuards : List String := []
  validator : Option String := none
  subgraph : Option String := none
  paths : List PathId := []
  reentrant : Bool := false
  priority : Option Int := none
  ui : Option (Dict Json) := none
  deriving Inhabited

namespace Node

/-- Whether the node enters the path that the conversation has chosen. -/
def isFork (n : Node) : Bool := n.kind = .subgraphRef && !n.paths.isEmpty

end Node

/-- A transition.  An edge for invalid answers is never followed: the prompt of its target is shown
when an answer for `source` is rejected. -/
structure Edge where
  id : Option String := none
  source : NodeId
  target : NodeId
  guard : Option String := none
  onInvalid : Bool := false
  reentrant : Bool := false
  priority : Option Int := none
  deriving DecidableEq, Inhabited

namespace Edge

/-- The name of an edge: its id, or its ends. -/
def key (e : Edge) : String := e.id.getD (e.source ++ "->" ++ e.target)

def exits (e : Edge) : Bool := e.target = exitTarget

/-- Whether the guard is the fallback, in any case and with blanks around it. -/
def isFallback (e : Edge) : Bool :=
  e.guard.any fun g => (Text.trim g).map Char.toLower = fallbackGuard

end Edge

/-- How a version came about. -/
structure VersionRecord where
  version : Version
  predecessor : Option Version
  description : String
  author : Option String
  changeId : String
  createdAt : Timestamp
  deriving DecidableEq, Inhabited

/-- A versioned graph with the subgraphs declared in it, sorted by name. -/
structure Flow where
  id : FlowId := ""
  version : Version := 0
  entry : Option NodeId := none
  nodes : List Node := []
  edges : List Edge := []
  subgraphs : List (String × Flow) := []
  record : Option VersionRecord := none
  deriving Inhabited

namespace Flow

/-- The entry that is declared, or else the first node. -/
def entryNode? (f : Flow) : Option NodeId := f.entry.or (f.nodes.head?.map Node.id)

def node? (f : Flow) (id : NodeId) : Option Node := f.nodes.find? fun n => n.id = id

/-- The subgraph that a list of names leads to. -/
def descend? : Flow → List String → Option Flow
  | f, [] => some f
  | f, name :: r => (Dict.get? f.subgraphs name).bind (descend? · r)

/-- The graph at an address. -/
def scope? (f : Flow) (s : ScopeId) : Option Flow := f.descend? s.segments

/-- Replace the subgraph of a name by what a function makes of it. -/
def updateSubgraph? (f : Flow) (name : String) (g : Flow → Option Flow) : Option Flow :=
  match Dict.get? f.subgraphs name with
  | none => none
  | some sub => (g sub).map fun sub => { f with subgraphs := Dict.insert f.subgraphs name sub }

/-- Change the graph that a list of names leads to. -/
def updateAt? (g : Flow → Flow) : List String → Flow → Option Flow
  | [], f => some (g f)
  | name :: r, f => f.updateSubgraph? name (updateAt? g r)

end Flow

end Parley

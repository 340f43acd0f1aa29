import Parley.Conversation.Turn
import Parley.Edit.Basic
import Parley.Feedback.Basic
import Parley.Flow.Build
import Parley.Layer.Codec

/-!
# Scripts

A script builds a value by calls, which are applied in order.  A call is an array: its name, then
its arguments.

* `Script.node`, `Script.edge`, `Script.patch`, `Script.flow`: flows and their parts;
* `Script.layer`, `Script.edit`;
* `Script.turn`, `Script.result`: what a turn brings, and how an action ended.
-/

namespace Parley.Script

/-- Why a script builds nothing. -/
inductive Fault
  | shape
  | unknownKind
  | unknownName (field : String)
  deriving DecidableEq

/-- The items of an array; `null` stands for none. -/
def calls : Json → Except Fault (List Json)
  | .array js => .ok js
  | .null => .ok []
  | _ => .error .shape

def items : Json → Except Fault (List Json)
  | .array js => .ok js
  | _ => .error .shape

def text : Json → Except Fault String
  | .string s => .ok s
  | _ => .error .shape

def priority (j : Json) : Except Fault Int :=
  (Json.Reader.int64.ofJson j).mapError fun _ => Fault.shape

def kind (j : Json) : Except Fault NodeKind :=
  (Json.Reader.nodeKind.ofJson j).mapError fun _ => Fault.unknownKind

/-! ### Nodes and edges -/

/-- The call that makes a node. -/
def newNode : Json → Except Fault Node
  | .array [.string "new", id, k] => do pure { id := ← text id, kind := ← kind k }
  | .array [.string "question", id, key, prompt] => do
      pure (.question (← text id) (← text key) (← text prompt))
  | .array [.string "decision", id] => do pure (.decision (← text id))
  | .array [.string "action", id] => do pure (.action (← text id))
  | .array [.string "terminal", id] => do pure (.terminal (← text id))
  | .array [.string "escalation", id] => do pure (.escalation (← text id))
  | .array [.string "subgraph_ref", id, name] => do pure (.subgraphRef (← text id) (← text name))
  | .array [.string "path_fork", id, paths, prompt] => do
      pure (.pathFork (← text id) (← (← items paths).mapM text) (← text prompt))
  | _ => .error .shape

/-- A call that changes a node. -/
def nodeCall (n : Node) : Json → Except Fault Node
  | .array [.string "prompt", t] => do pure (n.withPrompt (← text t))
  | .array [.string "guard", t] => do pure (n.withGuard (← text t))
  | .array [.string "validator", t] => do pure (n.withValidator (← text t))
  | .array [.string "priority", i] => do pure (n.withPriority (← priority i))
  | .array [.string "reentrant"] => .ok n.asReentrant
  | _ => .error .shape

def node (j : Json) : Except Fault Node := do
  match ← items j with
  | first :: rest => rest.foldlM nodeCall (← newNode first)
  | [] => throw .shape

/-- The call that makes an edge. -/
def newEdge : Json → Except Fault Edge
  | .array [.string "always", f, t] => do pure (.always (← text f) (← text t))
  | .array [.string "when", f, t, g] => do pure (.guarded (← text f) (← text t) (← text g))
  | .array [.string "otherwise", f, t] => do pure (.otherwise (← text f) (← text t))
  | .array [.string "exit", f] => do pure (.exit (← text f))
  | .array [.string "on_invalid", f, t] => do pure (.forInvalid (← text f) (← text t))
  | _ => .error .shape

/-- An edge, re-entrant if any call follows the first. -/
def edge (j : Json) : Except Fault Edge := do
  match ← items j with
  | [first] => newEdge first
  | first :: _ => do pure (← newEdge first).asReentrant
  | [] => throw .shape

/-! ### Flows -/

/-- Put nodes, edges and subgraphs into a flow. -/
def assemble (f : Flow) (nodes : List Node) (edges : List Edge) (subgraphs : List (String × Flow)) :
    Flow :=
  let f := nodes.foldl Flow.withNode f
  let f := edges.foldl Flow.withEdge f
  subgraphs.foldl (fun f (name, sub) => f.withSubgraph name sub) f

/-- The flow that a script without subgraphs starts from: in its first version if it has an id. -/
def emptyFlow : Option Json → Except Fault Flow
  | none | some .null => .ok {}
  | some id => do pure (.named (← text id))

mutual

def flow : Json → Except Fault Flow
  | .object members => do
      let start ← emptyFlow (Dict.get? members "id")
      let nodes ← (← calls ((Dict.get? members "nodes").getD .null)).mapM node
      let edges ← (← calls ((Dict.get? members "edges").getD .null)).mapM edge
      pure (assemble start nodes edges (← subgraphsIn members))
  | _ => .error .shape

/-- The subgraphs among the members of a flow. -/
def subgraphsIn : List (String × Json) → Except Fault (List (String × Flow))
  | [] => .ok []
  | (name, j) :: r => if name = "subgraphs" then subgraphs j else subgraphsIn r

def subgraphs : Json → Except Fault (List (String × Flow))
  | .null => .ok []
  | .object members => namedFlows members
  | _ => .error .shape

def namedFlows : List (String × Json) → Except Fault (List (String × Flow))
  | [] => .ok []
  | (name, j) :: r => do pure ((name, ← flow j) :: (← namedFlows r))

end

/-! ### Layers -/

/-- A call that changes a node patch. -/
def patchCall (p : NodePatch) : Json → Except Fault NodePatch
  | .array [.string "kind", k] => do pure { p with kind := some (← kind k) }
  | .array [.string "prompt", t] => do pure { p with prompt := some (← text t) }
  | .array [.string "guard", t] => do pure { p with guard := some (← text t) }
  | .array [.string "extra_guard", t] => do
      pure { p with extraGuards := p.extraGuards ++ [← text t] }
  | .array [.string "priority", i] => do pure { p with priority := some (← priority i) }
  | .array [.string "removed"] => .ok { p with remove := true }
  | _ => .error .shape

/-- A node patch: an id, then calls. -/
def patch : List Json → Except Fault NodePatch
  | id :: rest => do rest.foldlM patchCall { id := ← text id }
  | [] => .error .shape

/-- A call that changes an edge patch. -/
def edgePatchCall (p : EdgePatch) : Json → Except Fault EdgePatch
  | .array [.string "guard", t] => do pure { p with guard := some (← text t) }
  | .array [.string "priority", i] => do pure { p with priority := some (← priority i) }
  | .array [.string "removed"] => .ok { p with remove := true }
  | _ => .error .shape

/-- The scope that a flow declares; the flow stands as a document or as a script. -/
def layerGraph (j : Json) : Except Fault LayerGraph :=
  match Flow.reader.ofJson j with
  | .ok f => .ok (.ofFlow f)
  | .error _ => (flow j).map LayerGraph.ofFlow

/-- A call that changes the scope of a layer. -/
def graphCall (g : LayerGraph) : List Json → Except Fault LayerGraph
  | [.string "entry", t] => do pure { g with entry := some (← text t) }
  | .string "node" :: rest => do pure { g with nodes := g.nodes ++ [← patch rest] }
  | .string "edge" :: f :: t :: rest => do
      let p ← rest.foldlM edgePatchCall { source := ← text f, target := ← text t }
      pure { g with edges := g.edges ++ [p] }
  | [.string "subgraph", name, j] => do
      pure { g with subgraphs := Dict.insert g.subgraphs (← text name) (← layerGraph j) }
  | _ => .error .shape

/-- A call that changes a layer. -/
def layerCall (l : Layer) (call : Json) : Except Fault Layer := do
  match ← items call with
  | [.string "label", t] => pure { l with label := some (← text t) }
  | [.string "id", t] => pure { l with id := some (← text t) }
  | call => pure { l with graph := ← graphCall l.graph call }

def layer (tier calls_ : Json) : Except Fault Layer := do
  let tier ← (Json.Reader.tier.ofJson tier).mapError fun _ => Fault.unknownName "tier"
  (← calls calls_).foldlM layerCall { tier }

/-! ### Edits, turns and results -/

def change (call : Json) : Except Fault Change := do
  match ← items call with
  | [.string "add_node", n] => pure (.addNode (← node n))
  | [.string "remove_node", id] => pure (.removeNode (← text id))
  | [.string "update_node", p] => pure (.updateNode (← patch (← items p)))
  | [.string "add_edge", e] => pure (.addEdge (← edge e))
  | [.string "remove_edge", f, t] => pure (.removeEdge (← text f) (← text t))
  | _ => throw .shape

/-- An edit in a scope; `null` stands for the root. -/
def edit (call scope : Json) : Except Fault Edit := do
  let change ← change call
  match scope with
  | .null => pure { change }
  | scope => pure { change, scope := .ofText (← text scope) }

/-- A call that adds to a turn. -/
def turnCall (t : TurnInput) : Json → Except Fault TurnInput
  | .array [.string "answer", key, value] => do
      pure { t with proposals := t.proposals ++ [{ key := ← text key, value }] }
  | .array [.string "proposal", key, value, confidence] => do
      let confidence ← (Json.Reader.single.ofJson confidence).mapError fun _ => Fault.shape
      pure { t with proposals := t.proposals ++ [{ key := ← text key, value, confidence }] }
  | .array [.string "path", p] => do pure { t with path := some (← text p) }
  | .array [.string "escalate"] => .ok { t with escalate := true }
  | _ => .error .shape

def turn (calls_ : Json) : Except Fault TurnInput := do (← calls calls_).foldlM turnCall {}

/-- A detail: its key and its value. -/
def detail (r : ActionResult) : Json → Except Fault ActionResult
  | .array [k, v] => do pure (r.withDetail (← text k) (← text v))
  | _ => .error .shape

/-- A failure of a kind, or a success when the kind is `null`, with details. -/
def result (kind reason details : Json) : Except Fault ActionResult := do
  let start : ActionResult ← match kind with
    | .null => pure (.success [])
    | kind => do
        let kind ← ((Json.Reader.choice FailureKind.ofName?).ofJson kind).mapError fun _ =>
          Fault.unknownName "kind"
        pure (.failure kind (← match reason with
          | .null => pure ""
          | reason => text reason))
  (← calls details).foldlM detail start

end Parley.Script

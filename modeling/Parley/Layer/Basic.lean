import Parley.Flow.Basic

/-!
# Layers

A layer is a partial flow: patches of nodes and edges, each of which sets some fields.  Layers of a
higher tier apply over those of a lower one.

* `Tier`, `NodePatch`, `EdgePatch`, `LayerGraph`, `Layer`;
* `NodePatch.ofNode`, `Layer.ofFlow`: the patch and the layer that declare all of a node and of a
  flow;
* `NodePatch.settings`, `EdgePatch.settings`: the fields that a patch sets and a later patch may
  replace.
-/

namespace Parley

/-- How far up a layer stands; the highest tier is that of a single flow. -/
inductive Tier
  | global
  | category
  | tenant
  | single
  deriving DecidableEq, Inhabited

namespace Tier

def name : Tier → String
  | .global => "global"
  | .category => "category"
  | .tenant => "tenant"
  | .single => "instance"

def ofName? : String → Option Tier
  | "global" => some .global
  | "category" => some .category
  | "tenant" => some .tenant
  | "instance" => some .single
  | _ => none

/-- The height of a tier. -/
def rank : Tier → Nat
  | .global => 0
  | .category => 1
  | .tenant => 2
  | .single => 3

end Tier

/-- A partial node.  Fields that are not set leave what stands below alone; `remove` takes the node
away. -/
structure NodePatch where
  id : NodeId
  kind : Option NodeKind := none
  key : Option AnswerKey := none
  prompt : Option String := none
  guard : Option String := none
  when : Option String := none
  dependsOn : List AnswerKey := []
  extraGuards : List String := []
  validator : Option String := none
  subgraph : Option String := none
  paths : Option (List PathId) := none
  reentrant : Option Bool := none
  priority : Option Int := none
  ui : Option (Dict Json) := none
  remove : Bool := false
  deriving Inhabited

namespace NodePatch

/-- The fields that a patch sets and a later patch may replace, sorted by name. -/
def settings (p : NodePatch) : Dict Json :=
  Json.memberIfSome "guard" .string p.guard
    ++ Json.memberIfSome "key" .string p.key
    ++ Json.memberIfSome "paths" Json.strings p.paths
    ++ Json.memberIfSome "priority" .int p.priority
    ++ Json.memberIfSome "prompt" .string p.prompt
    ++ Json.memberIfSome "reentrant" .bool p.reentrant
    ++ Json.memberIfSome "subgraph" .string p.subgraph
    ++ Json.memberIfSome "type" (fun k => .string k.name) p.kind
    ++ Json.memberIfSome "ui" .object p.ui
    ++ Json.memberIfSome "validator" .string p.validator
    ++ Json.memberIfSome "when" .string p.when

/-- Whether the patch sets nothing. -/
def isEmpty (p : NodePatch) : Bool :=
  p.settings.isEmpty && p.dependsOn.isEmpty && p.extraGuards.isEmpty

/-- The patch that sets what a node says. -/
def ofNode (n : Node) : NodePatch where
  id := n.id
  kind := some n.kind
  key := n.key
  prompt := n.prompt
  guard := n.guard
  when := n.when
  dependsOn := n.dependsOn
  extraGuards := n.extraGuards
  validator := n.validator
  subgraph := n.subgraph
  paths := if n.paths.isEmpty then none else some n.paths
  reentrant := if n.reentrant then some true else none
  priority := n.priority
  ui := n.ui

/-- The node that a patch describes on its own, with an id; there is none without a kind. -/
def toNode? (p : NodePatch) (id : NodeId) : Option Node :=
  p.kind.map fun kind => {
    id := id
    kind := kind
    key := p.key
    prompt := p.prompt
    guard := p.guard
    when := p.when
    dependsOn := p.dependsOn
    extraGuards := p.extraGuards
    validator := p.validator
    subgraph := p.subgraph
    paths := p.paths.getD []
    reentrant := p.reentrant.getD false
    priority := p.priority
    ui := p.ui }

end NodePatch

/-- A partial edge.  Its name says which edge it means; `remove` takes the edge away. -/
structure EdgePatch where
  id : Option String := none
  source : NodeId
  target : NodeId
  guard : Option String := none
  onInvalid : Option Bool := none
  reentrant : Option Bool := none
  priority : Option Int := none
  remove : Bool := false
  deriving DecidableEq, Inhabited

namespace EdgePatch

/-- The name of the edge that is meant: its id, or its ends. -/
def key (p : EdgePatch) : String := p.id.getD (p.source ++ "->" ++ p.target)

/-- The fields that a patch sets and a later patch may replace, sorted by name. -/
def settings (p : EdgePatch) : Dict Json :=
  [("from", .string p.source)]
    ++ Json.memberIfSome "guard" .string p.guard
    ++ Json.memberIfSome "on_invalid" .bool p.onInvalid
    ++ Json.memberIfSome "priority" .int p.priority
    ++ Json.memberIfSome "reentrant" .bool p.reentrant
    ++ [("to", .string p.target)]

/-- The patch that sets what an edge says. -/
def ofEdge (e : Edge) : EdgePatch where
  id := e.id
  source := e.source
  target := e.target
  guard := e.guard
  onInvalid := if e.onInvalid then some true else none
  reentrant := if e.reentrant then some true else none
  priority := e.priority

/-- The edge that a patch describes on its own. -/
def toEdge (p : EdgePatch) : Edge where
  id := p.id
  source := p.source
  target := p.target
  guard := p.guard
  onInvalid := p.onInvalid.getD false
  reentrant := p.reentrant.getD false
  priority := p.priority

end EdgePatch

/-- The patches of a layer for one scope, and those for the subgraphs in it, sorted by name. -/
structure LayerGraph where
  entry : Option NodeId := none
  nodes : List NodePatch := []
  edges : List EdgePatch := []
  subgraphs : List (String × LayerGraph) := []
  deriving Inhabited

namespace LayerGraph

mutual

/-- The patches that declare all of a flow. -/
def ofFlow : Flow → LayerGraph
  | ⟨_, _, entry, nodes, edges, subgraphs, _⟩ =>
      ⟨entry, nodes.map .ofNode, edges.map .ofEdge, ofSubgraphs subgraphs⟩

def ofSubgraphs : List (String × Flow) → List (String × LayerGraph)
  | [] => []
  | (name, f) :: r => (name, ofFlow f) :: ofSubgraphs r

end

end LayerGraph

/-- A layer of a tier. -/
structure Layer where
  tier : Tier
  label : Option String := none
  id : Option FlowId := none
  graph : LayerGraph := {}
  deriving Inhabited

namespace Layer

/-- The name of a layer in reports. -/
def name (l : Layer) : String := l.label.getD l.tier.name

/-- The layer that declares all of a flow. -/
def ofFlow (tier : Tier) (f : Flow) : Layer where
  tier := tier
  id := some f.id
  graph := .ofFlow f

end Layer

end Parley

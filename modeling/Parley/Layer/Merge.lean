import Parley.Graph.Error
import Parley.Layer.Conflict
import Parley.Table

/-!
# Merging layers

The layers of a flow are laid over one another, lowest tier first.  Per scope, their declarations
form one list, each with the name of its layer; a `Draft` takes them in one after the other and then
becomes a flow.

* `Overlay`: the declarations of all layers, scope by scope;
* `Draft`: what the declarations of a scope add up to;
* `Layer.merge`: the flow that layers describe together, and where they disagree.
-/

namespace Parley

/-- One thing that a layer says about a scope. -/
inductive Declaration
  | entry (id : NodeId)
  | node (patch : NodePatch)
  | edge (patch : EdgePatch)

/-- The declarations of a layer for one scope, in order. -/
def LayerGraph.declarations (g : LayerGraph) : List Declaration :=
  g.entry.toList.map .entry ++ g.nodes.map .node ++ g.edges.map .edge

/-- The declarations for one scope in order, each with the name of its layer, and those for the
subgraphs in it, sorted by name. -/
structure Overlay where
  declarations : List (String × Declaration) := []
  subgraphs : List (String × Overlay) := []

namespace Overlay

mutual

/-- Put the declarations of a layer on top. -/
def stack (layer : String) : LayerGraph → Overlay → Overlay
  | ⟨entry, nodes, edges, subgraphs⟩, o =>
      let g : LayerGraph := ⟨entry, nodes, edges, []⟩
      ⟨o.declarations ++ g.declarations.map (layer, ·), stackSubgraphs layer subgraphs o.subgraphs⟩

def stackSubgraphs (layer : String) :
    List (String × LayerGraph) → List (String × Overlay) → List (String × Overlay)
  | [], below => below
  | (name, g) :: r, below =>
      stackSubgraphs layer r
        (Dict.insert below name (stack layer g ((Dict.get? below name).getD {})))

end

/-- The declarations of layers, lowest first. -/
def ofLayers (layers : List Layer) : Overlay :=
  layers.foldl (fun o l => stack l.name l.graph o) {}

end Overlay

/-- An element as declared so far, with the layers that set its fields. -/
structure Held (α : Type) where
  patch : α
  origins : Origins

/-- A scope as declared so far.  `declared` holds all nodes in order of first declaration, `removed`
those whose last declaration takes them away; `edges` are in order of declaration, by name. -/
structure Draft where
  entry : Option (String × NodeId) := none
  declared : List NodeId := []
  nodes : Dict (Held NodePatch) := []
  removed : List NodeId := []
  edges : Table String (Held EdgePatch) := []
  conflicts : List Conflict := []

namespace Draft

/-- The name of a scope in reports, given what stands before the names of its elements. -/
def scopeElement (before : String) : String :=
  if before = "" then "flow"
  else String.ofList (before.toList.reverse.dropWhile (· = '/')).reverse

/-- Set the entry; a different one set before is a conflict. -/
def setEntry (before layer : String) (id : NodeId) (d : Draft) : Draft :=
  let conflict : List Conflict :=
    match d.entry with
    | some (loser, lost) =>
        if lost = id then []
        else [⟨scopeElement before, "entry", loser, .string lost, layer, .string id⟩]
    | none => []
  { d with entry := some (layer, id), conflicts := d.conflicts ++ conflict }

/-- Lay a node patch over the node, or take the node away. -/
def patchNode (before layer : String) (p : NodePatch) (d : Draft) : Draft :=
  if p.remove then
    { d with
      nodes := d.nodes.erase p.id
      removed := p.id :: d.removed }
  else
    let held := (d.nodes.get? p.id).getD ⟨{ id := p.id }, []⟩
    let log := Log.settings ⟨before ++ p.id, layer⟩ held.patch.settings p.settings
      ⟨held.origins, d.conflicts⟩
    { d with
      declared := if p.id ∈ d.declared then d.declared else d.declared ++ [p.id]
      nodes := d.nodes.insert p.id ⟨held.patch.overlay p, log.origins⟩
      removed := d.removed.filter (· ≠ p.id)
      conflicts := log.conflicts }

/-- The first patch of an edge, laid over nothing. -/
def newEdge (p : EdgePatch) : EdgePatch := { p with remove := false }

/-- Lay an edge patch over the edge, or take the edge away. -/
def patchEdge (before layer : String) (p : EdgePatch) (d : Draft) : Draft :=
  if p.remove then { d with edges := d.edges.erase p.key }
  else
    let held := d.edges.get? p.key
    let log := Log.settings ⟨before ++ p.key, layer⟩ (held.elim [] fun h => h.patch.settings)
      p.settings ⟨held.elim [] Held.origins, d.conflicts⟩
    let patch := held.elim (newEdge p) fun h => h.patch.overlay p
    { d with
      edges := d.edges.set p.key ⟨patch, log.origins⟩
      conflicts := log.conflicts }

/-- Take in one declaration of a layer. -/
def declare (before : String) (d : Draft) : String × Declaration → Draft
  | (layer, .entry id) => d.setEntry before layer id
  | (layer, .node p) => d.patchNode before layer p
  | (layer, .edge p) => d.patchEdge before layer p

/-- The node that is declared under an id. -/
def finishNode (before : String) (id : NodeId) (held : Held NodePatch) : Except CompileError Node :=
  match held.patch.toNode? id with
  | some n => .ok n
  | none => .error (.schema (before ++ id) .missingKind)

/-- Elements with the highest priority first; those of the same priority keep their order. -/
def byPriority {α : Type} (priority : α → Option Int) (xs : List α) : List α :=
  xs.mergeSort fun a b => decide ((priority b).getD 0 ≤ (priority a).getD 0)

/-- The edges that are declared, without those at nodes that are taken away. -/
def finishEdges (d : Draft) : List Edge :=
  byPriority Edge.priority
    ((d.edges.map fun e => e.2.patch.toEdge).filter fun e =>
      e.source ∉ d.removed && e.target ∉ d.removed)

/-- The flow that the declarations describe, without its subgraphs. -/
def finish (before : String) (d : Draft) : Except CompileError Flow := do
  let nodes ← d.nodes.mapM fun (id, held) => finishNode before id held
  let nodes := byPriority Node.priority nodes
  let first := d.declared.find? fun id => nodes.any fun n => n.id = id
  pure {
    version := 1
    entry := (d.entry.map (·.2)).or first
    nodes := nodes
    edges := d.finishEdges }

/-- What a list of declarations adds up to. -/
def ofDeclarations (before : String) (ds : List (String × Declaration)) : Draft :=
  ds.foldl (declare before) {}

end Draft

/-- A flow with the conflicts on the way to it. -/
structure Merged where
  flow : Flow
  conflicts : List Conflict

namespace Overlay

mutual

/-- The flow that declarations describe; `before` stands before the names of its elements in
reports. -/
def resolve (before : String) : Overlay → Except CompileError Merged
  | ⟨declarations, subgraphs⟩ => do
      let draft := Draft.ofDeclarations before declarations
      let flow ← draft.finish before
      let (subgraphs, conflicts) ← resolveSubgraphs before subgraphs
      pure ⟨{ flow with subgraphs := subgraphs }, draft.conflicts ++ conflicts⟩

def resolveSubgraphs (before : String) :
    List (String × Overlay) → Except CompileError (List (String × Flow) × List Conflict)
  | [] => .ok ([], [])
  | (name, o) :: r => do
      let merged ← resolve (before ++ name ++ "/") o
      let (subgraphs, conflicts) ← resolveSubgraphs before r
      pure ((name, merged.flow) :: subgraphs, merged.conflicts ++ conflicts)

end

end Overlay

namespace Layer

/-- Layers in the order in which they apply: by tier, and within a tier as given. -/
def inOrder (layers : List Layer) : List Layer :=
  layers.mergeSort fun a b => decide (a.tier.rank ≤ b.tier.rank)

/-- The id that the topmost of ordered layers sets. -/
def flowId (ordered : List Layer) : FlowId := (ordered.reverse.findSome? Layer.id).getD ""

/-- The flow that layers describe together, and where they disagree. -/
def merge (layers : List Layer) : Except CompileError Merged := do
  let ordered := inOrder layers
  let merged ← (Overlay.ofLayers ordered).resolve ""
  pure { merged with flow := { merged.flow with id := flowId ordered } }

end Layer

end Parley

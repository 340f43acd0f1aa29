import Parley.Flow.Codec
import Parley.Layer.Basic

/-!
# Layers as JSON

Only fields that are set are written, and removals never are.
-/

namespace Parley

open Json

def Json.Reader.tier : Json.Reader Tier := .choice Tier.ofName?

namespace NodePatch

def toJson (p : NodePatch) : Json :=
  .object (
    [("id", .string p.id)]
      ++ memberIfSome "type" (fun k => .string k.name) p.kind
      ++ memberIfSome "key" .string p.key
      ++ memberIfSome "prompt" .string p.prompt
      ++ memberIfSome "guard" .string p.guard
      ++ memberIfSome "when" .string p.when
      ++ memberIfAny "depends_on" p.dependsOn
      ++ memberIfAny "extra_guards" p.extraGuards
      ++ memberIfSome "validator" .string p.validator
      ++ memberIfSome "subgraph" .string p.subgraph
      ++ memberIfSome "paths" .strings p.paths
      ++ memberIfSome "reentrant" .bool p.reentrant
      ++ memberIfSome "priority" .int p.priority
      ++ memberIfSome "ui" .object p.ui)

def record : Record NodePatch :=
  NodePatch.mk
    <$> .required "id" .text
    <*> .optional "type" .nodeKind
    <*> .optional "key" .text
    <*> .optional "prompt" .text
    <*> .optional "guard" .text
    <*> .optional "when" .text
    <*> .defaulted "depends_on" (.list .text) []
    <*> .defaulted "extra_guards" (.list .text) []
    <*> .optional "validator" .text
    <*> .optional "subgraph" .text
    <*> .optional "paths" (.list .text)
    <*> .optional "reentrant" .bool
    <*> .optional "priority" .int64
    <*> .optional "ui" .jsonObject
    <*> .defaulted "remove" .bool false

def reader : Reader NodePatch := record.reader

end NodePatch

namespace EdgePatch

def toJson (p : EdgePatch) : Json :=
  .object (
    memberIfSome "id" .string p.id
      ++ [("from", .string p.source), ("to", .string p.target)]
      ++ memberIfSome "guard" .string p.guard
      ++ memberIfSome "on_invalid" .bool p.onInvalid
      ++ memberIfSome "reentrant" .bool p.reentrant
      ++ memberIfSome "priority" .int p.priority)

def record : Record EdgePatch :=
  EdgePatch.mk
    <$> .optional "id" .text
    <*> .required "from" .text
    <*> .required "to" .text
    <*> .optional "guard" .text
    <*> .optional "on_invalid" .bool
    <*> .optional "reentrant" .bool
    <*> .optional "priority" .int64
    <*> .defaulted "remove" .bool false

def reader : Reader EdgePatch := record.reader

end EdgePatch

namespace LayerGraph

mutual

/-- The members of a layer that describe a scope. -/
def members : LayerGraph → List (String × Json)
  | ⟨entry, nodes, edges, subgraphs⟩ =>
      memberIfSome "entry" .string entry
        ++ [("nodes", .array (nodes.map NodePatch.toJson)),
          ("edges", .array (edges.map EdgePatch.toJson))]
        ++ (if subgraphs.isEmpty then [] else [("subgraphs", .object (subgraphsToJson subgraphs))])

def subgraphsToJson : List (String × LayerGraph) → List (String × Json)
  | [] => []
  | (name, g) :: r => (name, .object (members g)) :: subgraphsToJson r

end

/-- How to read a scope, given how to read the scopes inside it. -/
def record (inner : Reader LayerGraph) : Record LayerGraph :=
  LayerGraph.mk
    <$> .optional "entry" .text
    <*> .defaulted "nodes" (.list NodePatch.reader) []
    <*> .defaulted "edges" (.list EdgePatch.reader) []
    <*> .defaulted "subgraphs" (.dict inner) []

/-- Read a scope in which subgraphs nest less deep than a bound. -/
def readerBelow : Nat → Reader LayerGraph
  | 0 => fun d => .error d.unfit
  | n + 1 => (record (readerBelow n)).reader

end LayerGraph

namespace Layer

def toJson (l : Layer) : Json :=
  .object (
    [("tier", .string l.tier.name)]
      ++ memberIfSome "label" .string l.label
      ++ memberIfSome "id" .string l.id
      ++ l.graph.members)

/-- Read a layer.  The depth of a document bounds the nesting of subgraphs in it. -/
def reader : Reader Layer := fun d =>
  Record.objectReader (
    Layer.mk
      <$> .required "tier" .tier
      <*> .optional "label" .text
      <*> .optional "id" .text
      <*> LayerGraph.record (LayerGraph.readerBelow d.depth)) d

end Layer

end Parley

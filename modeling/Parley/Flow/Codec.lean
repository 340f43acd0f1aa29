import Parley.Flow.Basic
import Parley.Json.Reader

/-!
# Flows as JSON

Writing keeps the order of declaration and leaves out what says nothing; reading ignores unknown
members.
-/

namespace Parley

open Json

namespace Json.Reader

def version : Reader Version := .natBits 64

def nodeKind : Reader NodeKind := .choice NodeKind.ofName?

def timestamp : Reader Timestamp := fun d => do
  (Timestamp.parse? (← Reader.text d)).elim (.error .mismatch) .ok

def scope : Reader ScopeId := fun d => (Reader.text d).map ScopeId.mk

end Json.Reader

namespace Node

def toJson (n : Node) : Json :=
  .object (
    [("id", .string n.id), ("type", .string n.kind.name)]
      ++ memberIfSome "key" .string n.key
      ++ memberIfSome "prompt" .string n.prompt
      ++ memberIfSome "guard" .string n.guard
      ++ memberIfSome "when" .string n.when
      ++ memberIfAny "depends_on" n.dependsOn
      ++ memberIfAny "extra_guards" n.extraGuards
      ++ memberIfSome "validator" .string n.validator
      ++ memberIfSome "subgraph" .string n.subgraph
      ++ memberIfAny "paths" n.paths
      ++ memberIfTrue "reentrant" n.reentrant
      ++ memberIfSome "priority" .int n.priority
      ++ memberIfSome "ui" .object n.ui)

def record : Record Node :=
  Node.mk
    <$> .required "id" .text
    <*> .required "type" .nodeKind
    <*> .optional "key" .text
    <*> .optional "prompt" .text
    <*> .optional "guard" .text
    <*> .optional "when" .text
    <*> .defaulted "depends_on" (.list .text) []
    <*> .defaulted "extra_guards" (.list .text) []
    <*> .optional "validator" .text
    <*> .optional "subgraph" .text
    <*> .defaulted "paths" (.list .text) []
    <*> .defaulted "reentrant" .bool false
    <*> .optional "priority" .int64
    <*> .optional "ui" .jsonObject

def reader : Reader Node := record.reader

end Node

namespace Edge

def toJson (e : Edge) : Json :=
  .object (
    memberIfSome "id" .string e.id
      ++ [("from", .string e.source), ("to", .string e.target)]
      ++ memberIfSome "guard" .string e.guard
      ++ memberIfTrue "on_invalid" e.onInvalid
      ++ memberIfTrue "reentrant" e.reentrant
      ++ memberIfSome "priority" .int e.priority)

def record : Record Edge :=
  Edge.mk
    <$> .optional "id" .text
    <*> .required "from" .text
    <*> .required "to" .text
    <*> .optional "guard" .text
    <*> .defaulted "on_invalid" .bool false
    <*> .defaulted "reentrant" .bool false
    <*> .optional "priority" .int64

def reader : Reader Edge := record.reader

end Edge

namespace VersionRecord

def toJson (r : VersionRecord) : Json :=
  .object [
    ("version", .nat r.version),
    ("predecessor", .ofOption .nat r.predecessor),
    ("description", .string r.description),
    ("author", .ofOption .string r.author),
    ("change_id", .string r.changeId),
    ("created_at", .string r.createdAt.text)]

def record : Record VersionRecord :=
  VersionRecord.mk
    <$> .required "version" .version
    <*> .optional "predecessor" .version
    <*> .required "description" .text
    <*> .optional "author" .text
    <*> .required "change_id" .text
    <*> .required "created_at" .timestamp

def reader : Reader VersionRecord := record.reader

end VersionRecord

namespace Flow

mutual

def toJson : Flow → Json
  | ⟨id, version, entry, nodes, edges, subgraphs, record⟩ =>
      .object (
        [("id", .string id), ("version", .nat version)]
          ++ memberIfSome "entry" .string entry
          ++ [("nodes", .array (nodes.map Node.toJson)), ("edges", .array (edges.map Edge.toJson))]
          ++
            (if subgraphs.isEmpty then [] else [("subgraphs", .object (subgraphsToJson subgraphs))])
          ++ memberIfSome "meta" VersionRecord.toJson record)

def subgraphsToJson : List (String × Flow) → List (String × Json)
  | [] => []
  | (name, f) :: r => (name, f.toJson) :: subgraphsToJson r

end

/-- Read a flow whose subgraphs nest less deep than a bound. -/
def readerBelow : Nat → Reader Flow
  | 0 => fun d => .error d.unfit
  | n + 1 =>
      Record.reader (
        Flow.mk
          <$> .defaulted "id" .text ""
          <*> .defaulted "version" .version 1
          <*> .optional "entry" .text
          <*> .defaulted "nodes" (.list Node.reader) []
          <*> .defaulted "edges" (.list Edge.reader) []
          <*> .defaulted "subgraphs" (.dict (readerBelow n)) []
          <*> .optional "meta" VersionRecord.reader)

/-- Read a flow.  The depth of a document bounds the nesting of subgraphs in it. -/
def reader : Reader Flow := fun d => readerBelow (d.depth + 1) d

end Flow

end Parley

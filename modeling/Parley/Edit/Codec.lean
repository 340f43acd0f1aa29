import Parley.Edit.Basic
import Parley.Layer.Codec

/-!
# Edits as JSON

The member `op` says what an edit does; the scope is left out for the root.
-/

namespace Parley

open Json

namespace Edit

/-- The name of what an edit does. -/
def op (e : Edit) : String :=
  match e.change with
  | .addNode _ => "add_node"
  | .removeNode _ => "remove_node"
  | .updateNode _ => "update_node"
  | .addEdge _ => "add_edge"
  | .removeEdge _ _ => "remove_edge"
  | .setEntry _ => "set_entry"

/-- The members that say what is changed. -/
def changeMembers : Change → List (String × Json)
  | .addNode n => [("node", n.toJson)]
  | .removeNode id => [("id", .string id)]
  | .updateNode p => [("patch", p.toJson)]
  | .addEdge e => [("edge", e.toJson)]
  | .removeEdge source target => [("from", .string source), ("to", .string target)]
  | .setEntry id => [("node", .string id)]

def toJson (e : Edit) : Json :=
  .object (
    [("op", .string e.op)]
      ++ (if e.scope.isRoot then [] else [("scope", .string e.scope.text)])
      ++ changeMembers e.change)

/-- How to read an edit, given how to read what it changes. -/
def recordOf (change : Record Change) : Record Edit :=
  Edit.mk <$> .defaulted "scope" .scope .root <*> change

/-- How to read an edit that does what a name says. -/
def recordOf? : String → Option (Record Edit)
  | "add_node" => some (recordOf (.addNode <$> .required "node" Node.reader))
  | "remove_node" => some (recordOf (.removeNode <$> .required "id" .text))
  | "update_node" => some (recordOf (.updateNode <$> .required "patch" NodePatch.reader))
  | "add_edge" => some (recordOf (.addEdge <$> .required "edge" Edge.reader))
  | "remove_edge" =>
      some (recordOf (.removeEdge <$> .required "from" .text <*> .required "to" .text))
  | "set_entry" => some (recordOf (.setEntry <$> .required "node" .text))
  | _ => none

def reader : Reader Edit := Record.tagged "op" recordOf?

end Edit

end Parley

import Parley.Layer.Overlay

/-!
# Edits

An edit changes one scope of a flow.  A list of edits is applied in order, and the first one that
does not fit refuses them all.

* `Change`, `Edit`, `Edit.shown`;
* `EditFault`, `EditError`;
* `Flow.edit`: what a list of edits makes of a flow.
-/

namespace Parley

/-- What an edit does in its scope. -/
inductive Change
  | addNode (node : Node)
  | removeNode (id : NodeId)
  | updateNode (patch : NodePatch)
  | addEdge (edge : Edge)
  | removeEdge (source target : NodeId)
  | setEntry (node : NodeId)

/-- A change in a scope. -/
structure Edit where
  scope : ScopeId := .root
  change : Change

def Change.shown : Change → String
  | .addNode n => "add " ++ n.kind.name ++ " node '" ++ n.id ++ "'"
  | .removeNode id => "remove node '" ++ id ++ "'"
  | .updateNode p => "update node '" ++ p.id ++ "'"
  | .addEdge e => "add edge " ++ e.source ++ " -> " ++ e.target
  | .removeEdge source target => "remove edge " ++ source ++ " -> " ++ target
  | .setEntry id => "set entry to '" ++ id ++ "'"

/-- A short summary of an edit. -/
def Edit.shown (e : Edit) : String :=
  if e.scope.isRoot then e.change.shown else e.change.shown ++ " in " ++ e.scope.shown

/-- Why an edit does not fit. -/
inductive EditFault
  | unknownNode (id : NodeId)
  | unknownEdge (source target : NodeId)
  | duplicateNode (id : NodeId)
  | danglingEdge (id source target : NodeId)
  | unknownScope (scope : ScopeId)
  | entryRemoved (id : NodeId)
  | removalByPatch
  | duplicateEdge (key : String)
  deriving DecidableEq

def EditFault.message : EditFault → String
  | .unknownNode id => "unknown node '" ++ id ++ "'"
  | .unknownEdge source target => "unknown edge " ++ source ++ " -> " ++ target
  | .duplicateNode id => "node '" ++ id ++ "' already exists"
  | .danglingEdge id source target =>
      "removing '" ++ id ++ "' would leave edge " ++ source ++ " -> " ++ target ++ " dangling"
  | .unknownScope scope => "unknown scope '" ++ scope.shown ++ "'"
  | .entryRemoved id => "'" ++ id ++ "' is the entry node"
  | .removalByPatch => "use remove_node to delete a node"
  | .duplicateEdge key => "edge " ++ key ++ " already exists"

/-- The place of an edit in its list, counted from zero, and why it does not fit. -/
structure EditError where
  index : Nat
  fault : EditFault
  deriving DecidableEq

def EditError.message (e : EditError) : String :=
  "Edit #" ++ toString e.index ++ ": " ++ e.fault.message

namespace Flow

def addNode (f : Flow) (n : Node) : Except EditFault Flow :=
  if (f.node? n.id).isSome then .error (.duplicateNode n.id)
  else .ok { f with nodes := f.nodes ++ [n] }

/-- Take a node away.  No edge may lead from or to it, and it may not be declared as the entry. -/
def removeNode (f : Flow) (id : NodeId) : Except EditFault Flow :=
  if (f.node? id).isNone then .error (.unknownNode id)
  else
    match f.edges.find? fun e => e.source = id || e.target = id with
    | some e => .error (.danglingEdge id e.source e.target)
    | none =>
        if f.entry = some id then .error (.entryRemoved id)
        else .ok { f with nodes := f.nodes.filter fun n => n.id ≠ id }

/-- Replace the first element that has a property. -/
def replaceFirst {α : Type} (p : α → Bool) (g : α → α) : List α → List α
  | [] => []
  | a :: r => if p a then g a :: r else a :: replaceFirst p g r

def updateNode (f : Flow) (p : NodePatch) : Except EditFault Flow :=
  if p.remove then .error .removalByPatch
  else if (f.node? p.id).isNone then .error (.unknownNode p.id)
  else .ok { f with nodes := replaceFirst (fun n => n.id = p.id) p.applyTo f.nodes }

/-- Add an edge between nodes, or from a node back to the caller.  Its name has to be new. -/
def addEdge (f : Flow) (e : Edge) : Except EditFault Flow :=
  if (f.node? e.source).isNone then .error (.unknownNode e.source)
  else if !e.exits && (f.node? e.target).isNone then .error (.unknownNode e.target)
  else if f.edges.any fun other => other.key = e.key then .error (.duplicateEdge e.key)
  else .ok { f with edges := f.edges ++ [e] }

/-- Take away all edges from one node to another. -/
def removeEdge (f : Flow) (source target : NodeId) : Except EditFault Flow :=
  let joins (e : Edge) : Bool := e.source = source && e.target = target
  if f.edges.any joins then .ok { f with edges := f.edges.filter fun e => !joins e }
  else .error (.unknownEdge source target)

def setEntry (f : Flow) (id : NodeId) : Except EditFault Flow :=
  if (f.node? id).isNone then .error (.unknownNode id)
  else .ok { f with entry := some id }

end Flow

/-- What a change makes of its scope. -/
def Change.apply (f : Flow) : Change → Except EditFault Flow
  | .addNode n => f.addNode n
  | .removeNode id => f.removeNode id
  | .updateNode p => f.updateNode p
  | .addEdge e => f.addEdge e
  | .removeEdge source target => f.removeEdge source target
  | .setEntry id => f.setEntry id

/-- What an edit makes of a flow. -/
def Edit.apply (f : Flow) (e : Edit) : Except EditFault Flow := do
  match f.scope? e.scope with
  | none => throw (.unknownScope e.scope)
  | some graph =>
      let changed ← e.change.apply graph
      match Flow.updateAt? (fun _ => changed) e.scope.segments f with
      | none => throw (.unknownScope e.scope)
      | some edited => pure edited

namespace Flow

/-- Apply edits in order, counting from an index. -/
def editFrom : Nat → Flow → List Edit → Except EditError Flow
  | _, f, [] => .ok f
  | index, f, e :: r => do
      let f ← (e.apply f).mapError (EditError.mk index)
      editFrom (index + 1) f r

/-- What a list of edits makes of a flow. -/
def edit (f : Flow) (edits : List Edit) : Except EditError Flow := editFrom 0 f edits

end Flow

end Parley

import Parley.Flow.Basic
import Parley.Guard.Eval
import Parley.Validator

/-!
# Compiled flows

A `Graph` is a flow whose references are resolved and whose guards and validators are read.  Each
scope of the flow becomes an `Area` with its steps and links.

* `Target`, `Link`, `Step`, `Area`, `Warning`, `Graph`;
* `Area.outgoing`, `Area.ownerOf?`, `Graph.area?`: look-ups.
-/

namespace Parley

/-- Where a link leads. -/
inductive Target
  | node (id : NodeId)
  | exit
  deriving DecidableEq, Inhabited

/-- The text of a target in a flow. -/
def Target.text : Target → NodeId
  | .node id => id
  | .exit => exitTarget

/-- An edge that can be followed; `index` is its place among the edges of its scope. -/
structure Link where
  index : Nat
  source : NodeId
  target : Target
  guard : Guard.EdgeGuard
  reentrant : Bool

/-- A node with its condition, its validator and the scopes that it enters. -/
structure Step where
  node : Node
  eligibility : Option Guard.Expr
  validator : Option Validator
  subgraph : Option ScopeId
  paths : List (PathId × ScopeId)

namespace Step

def id (s : Step) : NodeId := s.node.id

/-- The scope that the step enters for a path. -/
def pathScope? (s : Step) (path : PathId) : Option ScopeId :=
  (s.paths.find? fun p => p.1 = path).map (·.2)

/-- The scopes that the step may enter. -/
def targets (s : Step) : List ScopeId := s.subgraph.toList ++ s.paths.map (·.2)

end Step

/-- One scope of a compiled flow. -/
structure Area where
  id : ScopeId
  entry : NodeId
  steps : List Step
  links : List Link
  invalidTargets : List (NodeId × NodeId)

namespace Area

def step? (a : Area) (id : NodeId) : Option Step := a.steps.find? fun s => s.id = id

def contains (a : Area) (id : NodeId) : Bool := (a.step? id).isSome

/-- The links from a node, in order of declaration. -/
def outgoing (a : Area) (id : NodeId) : List Link := a.links.filter fun l => l.source = id

/-- The node whose prompt is shown when an answer for a node is rejected. -/
def invalidTarget? (a : Area) (id : NodeId) : Option NodeId :=
  (a.invalidTargets.find? fun p => p.1 = id).map (·.2)

/-- The node that owns an answer key. -/
def ownerOf? (a : Area) (key : AnswerKey) : Option Step :=
  a.steps.find? fun s => s.node.key = some key

end Area

/-- A finding that does not stop compilation. -/
inductive Warning
  | unreachableNode (scope : ScopeId) (node : NodeId)
  | shadowedEdge (scope : ScopeId) (source : NodeId) (edge : String)
  deriving DecidableEq

def Warning.message : Warning → String
  | .unreachableNode scope node =>
      "node '" ++ node ++ "' in " ++ scope.shown ++ " is unreachable from the entry"
  | .shadowedEdge scope source edge =>
      "edge " ++ edge ++ " in " ++ scope.shown
        ++ " is shadowed by an earlier unconditional edge from '" ++ source ++ "'"

/-- A compiled flow.  The areas stand root first, each before those declared in it. -/
structure Graph where
  flow : Flow
  areas : List Area
  warnings : List Warning
  predicates : Guard.Registry

namespace Graph

def id (g : Graph) : FlowId := g.flow.id

def version (g : Graph) : Version := g.flow.version

def area? (g : Graph) (s : ScopeId) : Option Area := g.areas.find? fun a => a.id = s

def scopeIds (g : Graph) : List ScopeId := g.areas.map Area.id

end Graph

end Parley

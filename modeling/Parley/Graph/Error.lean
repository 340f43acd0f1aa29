import Parley.Flow.Basic
import Parley.Guard.Error

/-!
# Why a flow does not compile

Each error names the element it was found at: a node id or an edge key, with its scope in front.
-/

namespace Parley

/-- What is wrong with the form of an element. -/
inductive SchemaFault
  | missingFlowId
  | noNodes
  | badSubgraphName (name : String)
  | missingNodeId
  | reservedId
  | missingKey
  | missingSubgraph
  | subgraphAndPaths
  | badValidator (spec reason : String)
  | missingEnds
  | secondInvalidEdge (source : NodeId)
  | secondFallback (source : NodeId)
  | missingKind
  deriving DecidableEq

def SchemaFault.message : SchemaFault → String
  | .missingFlowId => "missing flow id"
  | .noNodes => "graph has no nodes"
  | .badSubgraphName name => "invalid subgraph name '" ++ name ++ "'"
  | .missingNodeId => "node without an id"
  | .reservedId => "'" ++ exitTarget ++ "' is reserved"
  | .missingKey => "question nodes require a key"
  | .missingSubgraph => "subgraphRef nodes require a subgraph or candidate paths"
  | .subgraphAndPaths => "subgraphRef nodes take either a subgraph or paths, not both"
  | .badValidator spec reason => "validator '" ++ spec ++ "': " ++ reason
  | .missingEnds => "edges require both from and to"
  | .secondInvalidEdge source => "'" ++ source ++ "' already has a validation-error edge"
  | .secondFallback source => "'" ++ source ++ "' already has an else edge"
  | .missingKind => "no layer declares the node type"

/-- Why a flow does not compile. -/
inductive CompileError
  | schema (element : String) (fault : SchemaFault)
  | duplicateId (scope : ScopeId) (id : String)
  | reference (element missing : String)
  | cycle (node : String) (path : List String)
  | deadEnd (node : String)
  | guard (element : String) (error : Guard.Error)
  deriving DecidableEq

namespace CompileError

/-- The element that an error was found at. -/
def element : CompileError → String
  | .schema element _ => element
  | .duplicateId _ id => id
  | .reference element _ => element
  | .cycle node _ => node
  | .deadEnd node => node
  | .guard element _ => element

def message : CompileError → String
  | .schema element fault => "Schema error at " ++ element ++ ": " ++ fault.message
  | .duplicateId scope id => "Duplicate id '" ++ id ++ "' in scope " ++ scope.shown
  | .reference element missing =>
      "Reference error at " ++ element ++ ": '" ++ missing ++ "' does not resolve"
  | .cycle node path =>
      "Unexpected cycle through node '" ++ node ++ "': " ++ " -> ".intercalate path
  | .deadEnd node =>
      "Node '" ++ node
        ++ "' can dead-end: every outgoing edge is guarded and there is no else edge"
  | .guard element error => "Invalid guard at " ++ element ++ ": " ++ error.message

end CompileError

end Parley

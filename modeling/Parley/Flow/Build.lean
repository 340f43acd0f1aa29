import Parley.Flow.Basic

/-!
# Writing flows down

Short forms for the usual nodes and edges, and for putting them together.
-/

namespace Parley

namespace Node

/-- Asks for the answer of a key. -/
def question (id : NodeId) (key : AnswerKey) (prompt : String) : Node :=
  { id, kind := .question, key := some key, prompt := some prompt }

def decision (id : NodeId) : Node := { id, kind := .decision }

def action (id : NodeId) : Node := { id, kind := .action }

def terminal (id : NodeId) : Node := { id, kind := .terminal }

def escalation (id : NodeId) : Node := { id, kind := .escalation }

/-- Enters a fixed subgraph. -/
def subgraphRef (id : NodeId) (name : String) : Node :=
  { id, kind := .subgraphRef, subgraph := some name }

/-- Enters the subgraph of the path that is locked. -/
def pathFork (id : NodeId) (paths : List PathId) (prompt : String) : Node :=
  { id, kind := .subgraphRef, paths, prompt := some prompt }

def withPrompt (n : Node) (prompt : String) : Node := { n with prompt := some prompt }

def withGuard (n : Node) (guard : String) : Node := { n with guard := some guard }

def withValidator (n : Node) (spec : String) : Node := { n with validator := some spec }

def withPriority (n : Node) (priority : Int) : Node := { n with priority := some priority }

def asReentrant (n : Node) : Node := { n with reentrant := true }

end Node

namespace Edge

/-- An edge without a guard. -/
def always (source target : NodeId) : Edge := { source, target }

/-- An edge with a guard. -/
def guarded (source target : NodeId) (guard : String) : Edge :=
  { source, target, guard := some guard }

/-- The edge that is taken when no sibling can be. -/
def otherwise (source target : NodeId) : Edge := guarded source target fallbackGuard

/-- The edge back to the caller of a subgraph. -/
def exit (source : NodeId) : Edge := always source exitTarget

/-- The edge to the node whose prompt is shown when an answer is refused. -/
def forInvalid (source target : NodeId) : Edge := { source, target, onInvalid := true }

def asReentrant (e : Edge) : Edge := { e with reentrant := true }

end Edge

namespace Flow

/-- An empty flow in its first version. -/
def named (id : FlowId) : Flow := { id, version := 1 }

def withNode (f : Flow) (n : Node) : Flow := { f with nodes := f.nodes ++ [n] }

def withEdge (f : Flow) (e : Edge) : Flow := { f with edges := f.edges ++ [e] }

def withSubgraph (f : Flow) (name : String) (sub : Flow) : Flow :=
  { f with subgraphs := Dict.insert f.subgraphs name sub }

end Flow

end Parley

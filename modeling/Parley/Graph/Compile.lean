import Parley.Graph.Cycle
import Parley.Graph.Error
import Parley.Graph.Warning

/-!
# Compiling flows

Compilation goes through the scopes of a flow, root first and each before those declared in it, and
checks their nodes and edges in order of declaration; then it looks for subgraphs that enter
themselves, and in each scope for cycles and dead ends.

* `Host`: the predicates and validators that flows may name;
* `Flow.scopes`: the scopes of a flow;
* `Host.compile`.
-/

namespace Parley

/-- The predicates and validators that flows may name. -/
structure Host where
  predicates : Guard.Registry
  rules : Validator.Rules

/-- The host with the built-in predicates and validators. -/
def Host.builtin : Host := ⟨.builtin, .builtin⟩

/-- The name of an element with its scope in front. -/
def qualified (scope : ScopeId) (element : String) : String :=
  if scope.isRoot then element else scope.text ++ "/" ++ element

namespace Flow

mutual

/-- The scopes of a flow that stands at an address, outer scopes before inner ones. -/
def scopesAt (at_ : ScopeId) : Flow → List (ScopeId × Flow)
  | ⟨id, version, entry, nodes, edges, subgraphs, record⟩ =>
      (at_, ⟨id, version, entry, nodes, edges, subgraphs, record⟩) :: subgraphScopes at_ subgraphs

def subgraphScopes (at_ : ScopeId) : List (String × Flow) → List (ScopeId × Flow)
  | [] => []
  | (name, f) :: r => scopesAt (at_.child name) f ++ subgraphScopes at_ r

end

/-- The scopes of a flow. -/
def scopes (f : Flow) : List (ScopeId × Flow) := f.scopesAt .root

end Flow

/-- The scopes in which a name is looked up: a scope and those around it, inner ones first. -/
def ScopeId.outward (s : ScopeId) : List ScopeId :=
  if s.isRoot then [s] else (Text.heads '/' s.text).map ScopeId.mk ++ [.root]

/-- The scope that a subgraph name means in a scope: the first among the known ones. -/
def resolveSubgraph (known : List ScopeId) (scope : ScopeId) (name : String) : Option ScopeId :=
  (scope.outward.map (·.child name)).find? (· ∈ known)

/-! ### Nodes -/

/-- Refuse nodes without an id, with a reserved one, or whose kind misses something. -/
def checkNodeForm (scope : ScopeId) (n : Node) : Except CompileError Unit :=
  let element := qualified scope n.id
  if Text.isBlankText n.id then .error (.schema scope.shown .missingNodeId)
  else if n.id = exitTarget then .error (.schema element .reservedId)
  else
    match n.kind with
    | .question => if n.key.isNone then .error (.schema element .missingKey) else .ok ()
    | .subgraphRef =>
        match n.subgraph, n.paths with
        | none, [] => .error (.schema element .missingSubgraph)
        | some _, _ :: _ => .error (.schema element .subgraphAndPaths)
        | _, _ => .ok ()
    | _ => .ok ()

/-- The condition texts of a node. -/
def Node.guardTexts (n : Node) : List String := n.guard.toList ++ n.when.toList ++ n.extraGuards

/-- The conditions under which a node is eligible. -/
def compileClauses (host : Host) (scope : ScopeId) (n : Node) :
    Except CompileError (List Guard.Expr) := do
  let exprs ← n.guardTexts.mapM fun text =>
    (Guard.compileExpr host.predicates text).mapError (.guard (qualified scope n.id))
  pure (exprs ++ n.dependsOn.map fun key => .present (.answer key))

/-- The validator of a node. -/
def compileValidator (host : Host) (scope : ScopeId) (n : Node) :
    Except CompileError (Option Validator) :=
  match n.validator with
  | none => .ok none
  | some spec =>
      match host.rules.compile spec with
      | .ok v => .ok (some v)
      | .error reason => .error (.schema (qualified scope n.id) (.badValidator spec reason))

/-- The scope that a node means by a name. -/
def compileReference (known : List ScopeId) (scope : ScopeId) (n : Node) (name : String) :
    Except CompileError ScopeId :=
  match resolveSubgraph known scope name with
  | some target => .ok target
  | none => .error (.reference (qualified scope n.id) name)

/-- Check a node and resolve what it names. -/
def compileNode (host : Host) (known : List ScopeId) (scope : ScopeId) (n : Node) :
    Except CompileError Step := do
  checkNodeForm scope n
  let clauses ← compileClauses host scope n
  let validator ← compileValidator host scope n
  let subgraph ← n.subgraph.mapM (compileReference known scope n)
  let paths ← n.paths.mapM fun path => do
    pure (path, ← compileReference known scope n path)
  pure ⟨n, Guard.Expr.all clauses, validator, subgraph, paths⟩

/-- Check nodes one after the other; ids and answer keys must not repeat. -/
def compileNodes (host : Host) (known : List ScopeId) (scope : ScopeId) :
    List Step → List Node → Except CompileError (List Step)
  | done, [] => .ok done
  | done, n :: r => do
      let step ← compileNode host known scope n
      if done.any fun s => s.id = n.id then throw (.duplicateId scope n.id)
      match n.key with
      | some key =>
          if done.any fun s => s.node.key = some key then throw (.duplicateId scope key)
          compileNodes host known scope (done ++ [step]) r
      | none => compileNodes host known scope (done ++ [step]) r

/-! ### Edges -/

/-- The links and edges for invalid answers read so far. -/
structure Edges where
  links : List Link := []
  invalidTargets : List (NodeId × NodeId) := []

/-- Check an edge for invalid answers. -/
def compileInvalidEdge (scope : ScopeId) (ids : List NodeId) (done : Edges) (e : Edge) :
    Except CompileError Edges :=
  let element := qualified scope e.key
  if e.target ∉ ids then .error (.reference element e.target)
  else if done.invalidTargets.any fun p => p.1 = e.source then
    .error (.schema element (.secondInvalidEdge e.source))
  else .ok { done with invalidTargets := done.invalidTargets ++ [(e.source, e.target)] }

/-- Where an edge leads. -/
def compileTarget (scope : ScopeId) (ids : List NodeId) (e : Edge) : Except CompileError Target :=
  let element := qualified scope e.key
  if e.exits then
    if scope.isRoot then
      .error (.reference element (exitTarget ++ " (only valid inside a subgraph)"))
    else .ok .exit
  else if e.target ∈ ids then .ok (.node e.target)
  else .error (.reference element e.target)

/-- Check an edge that can be followed. -/
def compileLink (host : Host) (scope : ScopeId) (ids : List NodeId) (done : Edges) (index : Nat)
    (e : Edge) : Except CompileError Edges := do
  let element := qualified scope e.key
  let target ← compileTarget scope ids e
  let guard ← (Guard.compileEdgeGuard host.predicates e.guard).mapError (.guard element)
  if guard.isOtherwise && done.links.any fun l => l.source = e.source && l.guard.isOtherwise then
    throw (.schema element (.secondFallback e.source))
  else
    pure { done with links := done.links ++ [⟨index, e.source, target, guard, e.reentrant⟩] }

/-- Check an edge. -/
def compileEdge (host : Host) (scope : ScopeId) (ids : List NodeId) (done : Edges) (index : Nat)
    (e : Edge) : Except CompileError Edges :=
  let element := qualified scope e.key
  if e.source = "" ∨ e.target = "" then .error (.schema element .missingEnds)
  else if e.source ∉ ids then .error (.reference element e.source)
  else if e.onInvalid then compileInvalidEdge scope ids done e
  else compileLink host scope ids done index e

/-- Check edges one after the other, counting from an index. -/
def compileEdges (host : Host) (scope : ScopeId) (ids : List NodeId) :
    Edges → Nat → List Edge → Except CompileError Edges
  | done, _, [] => .ok done
  | done, index, e :: r => do
      let done ← compileEdge host scope ids done index e
      compileEdges host scope ids done (index + 1) r

/-! ### Scopes -/

/-- A subgraph name that an address can hold. -/
def isSubgraphName (name : String) : Bool := !Text.isBlankText name && !name.toList.contains '/'

/-- The node at which a scope is entered. -/
def compileEntry (scope : ScopeId) (f : Flow) : Except CompileError NodeId :=
  match f.entry, f.nodes with
  | some entry, nodes =>
      if nodes.any fun n => n.id = entry then .ok entry
      else .error (.reference (qualified scope "entry") entry)
  | none, n :: _ => .ok n.id
  | none, [] => .error (.schema scope.shown .noNodes)

/-- Check one scope. -/
def compileArea (host : Host) (known : List ScopeId) (scope : ScopeId) (f : Flow) :
    Except CompileError Area := do
  if f.nodes.isEmpty then throw (.schema scope.shown .noNodes)
  match (Dict.keys f.subgraphs).find? fun name => !isSubgraphName name with
  | some name => throw (.schema scope.shown (.badSubgraphName name))
  | none =>
      let steps ← compileNodes host known scope [] f.nodes
      let entry ← compileEntry scope f
      let edges ← compileEdges host scope (steps.map Step.id) {} 0 f.edges
      pure ⟨scope, entry, steps, edges.links, edges.invalidTargets⟩

/-! ### Cycles and dead ends -/

/-- The scopes that the steps of a scope enter, except through re-entrant ones, with the entering
step. -/
def Area.calls (a : Area) : List (String × ScopeId) :=
  (a.steps.filter fun s => !s.node.reentrant).flatMap fun s =>
    s.targets.map fun t => (qualified a.id s.id, t)

/-- Refuse scopes that enter themselves other than through re-entrant nodes. -/
def checkRecursion (areas : List Area) : Except CompileError Unit :=
  let arcs (s : ScopeId) : List (String × ScopeId) :=
    (areas.find? fun a => a.id = s).elim [] Area.calls
  (findCycle arcs areas.length (areas.map Area.id)).mapError fun w =>
    .cycle w.label (w.path.map ScopeId.shown)

/-- The nodes that follow a node, except through re-entrant edges or into re-entrant nodes. -/
def Area.plainSuccessors (a : Area) (id : NodeId) : List (String × NodeId) :=
  (a.outgoing id).filterMap fun l =>
    match l.target with
    | .exit => none
    | .node n =>
        if l.reentrant || (a.step? n).any fun s => s.node.reentrant then none
        else some (qualified a.id n, n)

/-- Refuse cycles other than through re-entrant edges and nodes. -/
def checkCycles (a : Area) : Except CompileError Unit :=
  (findCycle a.plainSuccessors a.steps.length (a.steps.map Step.id)).mapError fun w =>
    .cycle w.label w.path

/-- Whether a conversation ends or is suspended at nodes of this kind. -/
def NodeKind.isFinal : NodeKind → Bool
  | .terminal | .escalation => true
  | _ => false

/-- Refuse nodes from which no edge can always be taken. -/
def checkDeadEnds (a : Area) : Except CompileError Unit :=
  match a.steps.find? fun s =>
      !s.node.kind.isFinal && !(a.outgoing s.id).any fun l => l.guard.isFallback with
  | some s => .error (.deadEnd (qualified a.id s.id))
  | none => .ok ()

/-- Compile a flow. -/
def Host.compile (host : Host) (f : Flow) : Except CompileError Graph := do
  if Text.isBlankText f.id then throw (.schema "flow" .missingFlowId)
  let known := f.scopes.map (·.1)
  let areas ← f.scopes.mapM fun (scope, def_) => compileArea host known scope def_
  checkRecursion areas
  areas.forM fun a => do
    checkCycles a
    checkDeadEnds a
  pure ⟨f, areas, areas.flatMap Area.warnings, host.predicates⟩

end Parley

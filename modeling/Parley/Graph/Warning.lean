import Parley.Graph.Basic

/-!
# Findings that do not stop compilation

A node is unreachable when no links and no edges for invalid answers lead to it from the entry.  An
edge is shadowed when one before it from the same node always holds.
-/

namespace Parley

universe u

/-- The points reached from a list of points in at most so many rounds, those of the last round
first. -/
def reach {α : Type u} [DecidableEq α] (next : α → List α) : Nat → List α → List α → List α
  | 0, _, seen => seen
  | n + 1, frontier, seen =>
      let fresh := ((frontier.flatMap next).filter fun a => a ∉ seen).eraseDups
      if fresh.isEmpty then seen else reach next n fresh (fresh ++ seen)

namespace Area

/-- The nodes that an edge leads to from a node. -/
def successors (a : Area) (id : NodeId) : List NodeId :=
  (a.outgoing id).filterMap (fun l =>
    match l.target with
    | .node n => some n
    | .exit => none)
  ++ (a.invalidTarget? id).toList

/-- The nodes reached from the entry. -/
def reachable (a : Area) : List NodeId := reach a.successors a.steps.length [a.entry] [a.entry]

def unreachableNodes (a : Area) : List NodeId :=
  (a.steps.map Step.id).filter fun id => id ∉ a.reachable

/-- The links from a node that stand behind one that always holds. -/
def shadowed (a : Area) (id : NodeId) : List Link :=
  ((a.outgoing id).dropWhile fun l => !l.guard.isAlwaysTrue).tail

def warnings (a : Area) : List Warning :=
  a.unreachableNodes.map (.unreachableNode a.id)
  ++ a.steps.flatMap fun s =>
      (a.shadowed s.id).map fun l =>
        .shadowedEdge a.id s.id (l.source ++ "->" ++ l.target.text)

end Area

end Parley

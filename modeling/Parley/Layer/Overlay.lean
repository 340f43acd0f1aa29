import Parley.Layer.Basic

/-!
# Laying one patch over another

A field that the upper patch sets replaces the lower one's, except that `depends_on` and
`extra_guards` grow by new items and that `ui` objects are merged member by member, at any depth.

* `Json.overlay`: merging of values;
* `NodePatch.overlay`, `EdgePatch.overlay`;
* `NodePatch.applyTo`: what a patch makes of a node.
-/

namespace Parley

/-- A list with the items of another one that are new to it. -/
def appendNew {α : Type} [DecidableEq α] (xs ys : List α) : List α :=
  ys.foldl (fun acc y => if y ∈ acc then acc else acc ++ [y]) xs

namespace Json

mutual

/-- What a value makes of the one below it: objects are merged, all else is replaced. -/
def overlay : Json → Json → Json
  | .object lower, .object upper => .object (overlayMembers lower upper)
  | _, upper => upper

/-- Lay members over the members of an object. -/
def overlayMembers (lower : Dict Json) : List (String × Json) → Dict Json
  | [] => lower
  | (k, upper) :: r =>
      overlayMembers
        (lower.insert k (match lower.get? k with
          | some value => overlay value upper
          | none => upper)) r

end

end Json

/-- Lay one `ui` object over another. -/
def overlayUi : Option (Dict Json) → Option (Dict Json) → Option (Dict Json)
  | some lower, some upper => some (Json.overlayMembers lower upper)
  | lower, none => lower
  | none, upper => upper

namespace NodePatch

/-- The lower patch with what the upper one sets; the id is the lower one's. -/
def overlay (lower upper : NodePatch) : NodePatch where
  id := lower.id
  kind := upper.kind.or lower.kind
  key := upper.key.or lower.key
  prompt := upper.prompt.or lower.prompt
  guard := upper.guard.or lower.guard
  when := upper.when.or lower.when
  dependsOn := appendNew lower.dependsOn upper.dependsOn
  extraGuards := appendNew lower.extraGuards upper.extraGuards
  validator := upper.validator.or lower.validator
  subgraph := upper.subgraph.or lower.subgraph
  paths := upper.paths.or lower.paths
  reentrant := upper.reentrant.or lower.reentrant
  priority := upper.priority.or lower.priority
  ui := overlayUi lower.ui upper.ui
  remove := false

/-- What a patch makes of a node.  The id stays. -/
def applyTo (p : NodePatch) (n : Node) : Node :=
  (((ofNode n).overlay p).toNode? n.id).getD n

end NodePatch

namespace EdgePatch

/-- The lower patch with what the upper one sets. -/
def overlay (lower upper : EdgePatch) : EdgePatch where
  id := upper.id.or lower.id
  source := upper.source
  target := upper.target
  guard := upper.guard.or lower.guard
  onInvalid := upper.onInvalid.or lower.onInvalid
  reentrant := upper.reentrant.or lower.reentrant
  priority := upper.priority.or lower.priority
  remove := false

end EdgePatch

end Parley

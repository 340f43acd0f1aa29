import Parley.Graph.Basic
import Parley.Flow.Codec

/-!
# The exported document

A compiled flow as a document for display: in each scope the entry, the nodes with their canonical
guards, the edges that can be followed, and the subgraphs by name.
-/

namespace Parley

open Json (memberIfSome)

namespace Step

def exported (s : Step) : Json :=
  .object (
    [("id", .string s.id), ("type", .string s.node.kind.name)]
      ++ memberIfSome "key" .string s.node.key
      ++ memberIfSome "prompt" .string s.node.prompt
      ++ memberIfSome "guard" (fun e => .string (Guard.Expr.shown e)) s.eligibility
      ++ memberIfSome "ui" .object s.node.ui)

end Step

namespace Link

/-- The guard text of an exported edge; none when there is no guard. -/
def exportedGuard (l : Link) : Option String :=
  match l.guard with
  | .always => none
  | g => some g.shown

def exported (l : Link) : Json :=
  .object (
    [("from", .string l.source), ("to", .string l.target.text)]
      ++ memberIfSome "guard" .string l.exportedGuard)

end Link

namespace Area

/-- The links, node by node, put in the order of their edges. -/
def exportedLinks (a : Area) : List Link :=
  (a.steps.flatMap fun s => a.outgoing s.id).mergeSort fun l l' => l.index ≤ l'.index

end Area

namespace ScopeId

theorem length_joinWith_dropLast (sep : Char) :
    ∀ {ps : List (List Char)}, Text.joinWith sep ps ≠ [] →
      (Text.joinWith sep ps.dropLast).length < (Text.joinWith sep ps).length
  | [], h => absurd rfl h
  | [_], h => List.length_pos_iff.2 h
  | [p, q], _ => by simp [Text.joinWith]
  | p :: q :: r :: rest, _ => by
      have hrest : Text.joinWith sep (q :: r :: rest) ≠ [] := by simp [Text.joinWith]
      have ih := length_joinWith_dropLast sep hrest
      simpa [Text.joinWith] using ih

/-- The scope around a scope has a shorter address. -/
theorem length_lt_of_parent? {s t : ScopeId} (h : t.parent? = some s) :
    s.text.length < t.text.length := by
  unfold parent? at h
  split at h
  · cases h
  · rename_i hroot
    cases h
    have hjoin : Text.joinWith '/' (Text.splitOn '/' t.text.toList) ≠ [] := by
      rw [Text.joinWith_splitOn]
      exact fun hnil => hroot (decide_eq_true (String.toList_inj.1 hnil))
    have hlength := length_joinWith_dropLast '/' hjoin
    rw [Text.joinWith_splitOn, String.length_toList] at hlength
    rwa [String.length_ofList]

/-- The name of a scope in the scope around it. -/
def name? (s : ScopeId) : Option String := s.segments.getLast?

end ScopeId

namespace Graph

/-- The scopes directly inside a scope. -/
def inside (g : Graph) (s : ScopeId) : List ScopeId := g.scopeIds.filter fun t => t.parent? = some s

theorem length_lt_of_mem_inside {g : Graph} {s t : ScopeId} (h : t ∈ g.inside s) :
    s.text.length < t.text.length ∧ t.text.length ≤
      (g.scopeIds.map (·.text.length)).max?.getD 0 := by
  obtain ⟨hmem, hparent⟩ := List.mem_filter.1 h
  exact ⟨ScopeId.length_lt_of_parent? (of_decide_eq_true hparent),
    List.le_max?_getD_of_mem (List.mem_map_of_mem hmem)⟩

/-- The members of an exported scope. -/
def exportedScope (g : Graph) (s : ScopeId) : List (String × Json) :=
  match g.area? s with
  | none =>
      [("entry", .string ""), ("nodes", .array []), ("edges", .array []), ("subgraphs", .object [])]
  | some a =>
      let subgraphs := (g.inside s).attach.filterMap fun t =>
        t.1.name?.map fun name => (name, Json.object (exportedScope g t.1))
      [("entry", .string a.entry), ("nodes", .array (a.steps.map Step.exported)),
        ("edges", .array (a.exportedLinks.map Link.exported)),
          ("subgraphs", .object (Dict.ofList subgraphs))]
termination_by (g.scopeIds.map (·.text.length)).max?.getD 0 - s.text.length
decreasing_by
  have hinside := length_lt_of_mem_inside t.2
  omega

/-- The exported document. -/
def exported (g : Graph) : Json :=
  .object ([("version", .nat g.version), ("id", .string g.id)] ++ g.exportedScope .root)

/-- The text of the exported document. -/
def exportText (g : Graph) : String := g.exported.pretty

end Graph

namespace Warning

def toJson : Warning → Json
  | .unreachableNode scope node =>
      .object [("kind", .string "unreachable_node"), ("scope", .string scope.text),
        ("node", .string node)]
  | .shadowedEdge scope source edge =>
      .object [("kind", .string "shadowed_edge"), ("scope", .string scope.text),
        ("from", .string source), ("edge", .string edge)]

end Warning

end Parley

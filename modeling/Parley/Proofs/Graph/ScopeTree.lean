import Parley.Proofs.Graph.Exported

/-!
# Addresses and the tree of subgraphs

The addresses of a flow are texts, and they are taken apart again wherever a scope is looked up or
left.  In a flow that compiles they stand for its tree of subgraphs: the names that lead from the
root to a scope make its address, and they are found in it again.  The addresses are listed in the
order of these names, outer scopes before inner ones.

* `Flow.IsSorted.mem_paths_iff`, `Flow.paths_increasing`: the names that lead to scopes, and their
  order;
* `Flow.scope?_ofNames`: the scope at an address;
* `Host.compile_addresses`.
-/

namespace Parley

variable {f d : Flow} {names : List String}

namespace Flow

theorem exists_cons_of_mem_subgraphPaths {subgraphs : List (String × Flow)}
    (h : names ∈ subgraphPaths subgraphs) :
    ∃ q ∈ subgraphs, ∃ rest, names = q.1 :: rest := by
  rw [subgraphPaths_eq_flatMap] at h
  obtain ⟨q, hq, hnames⟩ := List.mem_flatMap.1 h
  obtain ⟨rest, -, rfl⟩ := List.mem_map.1 hnames
  exact ⟨q, hq, rest, rfl⟩

theorem mem_paths_of_descend? (h : (f.descend? names).isSome = true) : names ∈ f.paths := by
  induction names generalizing f with
  | nil =>
    rw [paths_eq]
    exact List.mem_cons_self
  | cons name rest ih =>
    obtain ⟨d, hd⟩ := Option.isSome_iff_exists.1 h
    obtain ⟨sub, hsub, hd⟩ := Option.bind_eq_some_iff.1 hd
    have hrest : rest ∈ sub.paths := ih (Option.isSome_of_eq_some hd)
    rw [paths_eq]
    exact List.mem_cons_of_mem _ (List.mem_flatMap.2
      ⟨(name, sub), Dict.mem_of_get? hsub, List.mem_map_of_mem hrest⟩)

theorem IsSorted.mem_paths_iff (h : f.IsSorted) :
    names ∈ f.paths ↔ (f.descend? names).isSome = true :=
  ⟨h.isSome_descend?, mem_paths_of_descend?⟩

mutual

/-- Paths are listed in the order of their names, those that go on after those that end. -/
theorem paths_increasing : ∀ f : Flow, f.IsSorted → f.paths.Pairwise (· < ·)
  | ⟨id, version, entry, nodes, edges, subgraphs, record⟩, h => by
      have hordered : Dict.Ordered subgraphs := h [] _ rfl
      rw [paths, List.pairwise_cons]
      refine ⟨fun names hnames => ?_, ?_⟩
      · obtain ⟨q, -, rest, rfl⟩ := exists_cons_of_mem_subgraphPaths hnames
        exact List.nil_lt_cons _ _
      · exact subgraphPaths_increasing subgraphs hordered fun q hq =>
          h.sub (hordered.get?_of_mem hq)

theorem subgraphPaths_increasing : ∀ subgraphs : List (String × Flow), Dict.Ordered subgraphs →
    (∀ q ∈ subgraphs, q.2.IsSorted) → (subgraphPaths subgraphs).Pairwise (· < ·)
  | [], _, _ => .nil
  | (name, f) :: r, hordered, hsorted => by
      obtain ⟨hfirst, hrest⟩ := List.pairwise_cons.1 hordered
      obtain ⟨hf, hr⟩ := List.forall_mem_cons.1 hsorted
      rw [subgraphPaths, List.pairwise_append]
      refine ⟨?_, subgraphPaths_increasing r hrest hr, fun names hnames names' hnames' => ?_⟩
      · exact List.pairwise_map.2 ((paths_increasing f hf).imp .cons)
      · -- the two paths differ in their first names already
        obtain ⟨inner, -, rfl⟩ := List.mem_map.1 hnames
        obtain ⟨q, hq, inner', rfl⟩ := exists_cons_of_mem_subgraphPaths hnames'
        exact .rel (hfirst q hq)

end

/-- The scope at an address is the one that its names lead to. -/
theorem scope?_ofNames (h : ∀ n ∈ names, IsName n) :
    f.scope? (.ofNames names) = f.descend? names := by
  rw [scope?, ScopeId.segments_ofNames h]

end Flow

/-- **The addresses of a compiled flow stand for its scopes, one for one.**  They are made of the
names that lead to a scope, each list of such names once and in order: the root is first, a scope
comes before those inside it, and scopes side by side are sorted by name.  No two of them are the
same.  Without its last name an address is that of the scope around.  What is looked up at an
address in the flow is the scope that was compiled there, with the same nodes in the same order. -/
theorem Host.compile_addresses {host : Host} {g : Graph} (h : host.compile f = .ok g)
    (hsorted : ∀ p ∈ f.scopes, Dict.Ordered p.2.subgraphs) :
    (∃ paths : List (List String), g.scopeIds = paths.map ScopeId.ofNames ∧ paths.Pairwise (· < ·) ∧
      ∀ names, names ∈ paths ↔ (f.descend? names).isSome = true) ∧
    g.scopeIds.Nodup ∧
    (∀ (names : List String) (name : String), (f.descend? (names ++ [name])).isSome = true →
      (ScopeId.ofNames (names ++ [name])).parent? = some (.ofNames names) ∧
        (ScopeId.ofNames (names ++ [name])).segments.getLast? = some name) ∧
    ∀ names d, f.descend? names = some d → f.scope? (.ofNames names) = some d ∧
      ∃ a, g.area? (.ofNames names) = some a ∧
        compileArea host g.scopeIds (.ofNames names) d = .ok a ∧
        a.steps.map Step.id = d.nodes.map Node.id := by
  have hsorted' : f.IsSorted := fun names d hd => hsorted _ (Flow.mem_scopes_of_descend? hd)
  have hnames := Host.compile_names h hsorted
  have hids := Host.compile_scopeIds h
  refine ⟨⟨f.paths, hids.trans f.scopeIds_eq_map_paths, Flow.paths_increasing f hsorted',
    fun names => hsorted'.mem_paths_iff⟩, ?_, fun names name hleads => ?_, fun names d hd => ?_⟩
  · rw [hids]
    exact Flow.scopeIds_nodup hnames
  · have hpath := Flow.isName_of_descend? hnames hleads
    refine ⟨ScopeId.parent?_ofNames_concat hpath, ?_⟩
    rw [ScopeId.segments_ofNames hpath, List.getLast?_concat]
  · have hpath := Flow.isName_of_descend? hnames (Option.isSome_of_eq_some hd)
    obtain ⟨a, ha, hda⟩ := Host.compile_area? h hnames hd
    refine ⟨(Flow.scope?_ofNames hpath).trans hd, a, ha, hids ▸ hda, ?_⟩
    rw [map_step_id, compileArea_nodes hda]

namespace Samples

/-- The subgraph in a subgraph is listed last, it is found at its address, and the scope around it
is the subgraph. -/
theorem burrow_addresses :
    ∃ g, Host.builtin.compile burrow = .ok g ∧ (∀ p ∈ burrow.scopes, Dict.Ordered p.2.subgraphs) ∧
      g.scopeIds = [.root, ⟨"den"⟩, ⟨"den/nook"⟩] ∧
        (⟨"den/nook"⟩ : ScopeId).parent? = some ⟨"den"⟩ ∧
        burrow.scope? ⟨"den/nook"⟩ = some nook ∧
          ∃ a, g.area? ⟨"den/nook"⟩ = some a ∧ a.steps.map Step.id = nook.nodes.map Node.id := by
  obtain ⟨g, hg⟩ := compile_burrow
  obtain ⟨-, -, haround, hfound⟩ := Host.compile_addresses hg burrow_sorted
  obtain ⟨hscope, a, ha, -, hnodes⟩ := hfound ["den", "nook"] nook rfl
  exact ⟨g, hg, burrow_sorted, Host.compile_scopeIds hg, (haround ["den"] "nook" rfl).1, hscope,
    a, ha, hnodes⟩

end Samples

end Parley

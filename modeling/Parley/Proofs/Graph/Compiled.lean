import Parley.Conversation.Owner
import Parley.Graph.Compile
import Parley.Proofs.Checked
import Parley.Samples

/-!
# What compilation guarantees

A graph that a compiler made mirrors the scopes of its flow, and every name in it resolves: entries
and the ends of links are nodes of their scope, no link leaves the root, and the scopes that steps
enter exist.

* `Graph.IsCompiled`: some compiler made the graph;
* `Area.IsClosed`, `Graph.IsClosed`: all names resolve;
* `Host.compile_eq_ok`: each area is its scope compiled;
* `Graph.IsCompiled.isClosed`;
* `Flow.Offers`: the paths that forks offer.
-/

namespace Parley

/-- A graph that a compiler made of some flow. -/
def Graph.IsCompiled (g : Graph) : Prop := ∃ (host : Host) (f : Flow), host.compile f = .ok g

/-! ### Nodes -/

variable {host : Host} {known : List ScopeId} {scope : ScopeId}

theorem compileReference_mem {n : Node} {name : String} {s : ScopeId}
    (h : compileReference known scope n name = .ok s) : s ∈ known := by
  unfold compileReference at h
  split at h
  · rename_i target hr
    cases h
    simpa using List.find?_some hr
  · cases h

/-- What a compiled node holds: the node, and the scopes that it names. -/
theorem compileNode_eq_ok {n : Node} {s : Step} (h : compileNode host known scope n = .ok s) :
    s.node = n ∧ n.subgraph.mapM (compileReference known scope n) = .ok s.subgraph ∧
      List.Forall₂ (fun path p => p.1 = path ∧ compileReference known scope n path = .ok p.2)
        n.paths s.paths := by
  unfold compileNode at h
  obtain ⟨-, -, h⟩ := bind_eq_ok.1 h
  obtain ⟨clauses, -, h⟩ := bind_eq_ok.1 h
  obtain ⟨validator, -, h⟩ := bind_eq_ok.1 h
  obtain ⟨subgraph, hs, h⟩ := bind_eq_ok.1 h
  obtain ⟨paths, hp, h⟩ := bind_eq_ok.1 h
  rw [← pure_eq_ok.1 h]
  refine ⟨rfl, hs, (mapM_eq_ok.1 hp).imp fun path p hpath => ?_⟩
  obtain ⟨t, ht, hpath⟩ := bind_eq_ok.1 hpath
  rw [← pure_eq_ok.1 hpath]
  exact ⟨rfl, ht⟩

theorem compileNode_targets {n : Node} {s : Step} (h : compileNode host known scope n = .ok s)
    {t : ScopeId} (ht : t ∈ s.targets) : t ∈ known := by
  obtain ⟨-, hs, hp⟩ := compileNode_eq_ok h
  rw [Step.targets, List.mem_append, Option.mem_toList, List.mem_map] at ht
  rcases ht with ht | ⟨p, hmem, rfl⟩
  · rcases option_mapM_eq_ok.1 hs with ⟨-, hnone⟩ | ⟨name, t', -, hname, hsome⟩
    · rw [hnone] at ht
      cases ht
    · rw [hsome] at ht
      cases ht
      exact compileReference_mem hname
  · obtain ⟨path, -, -, hpath⟩ := exists_of_forall₂_right hp hmem
    exact compileReference_mem hpath

theorem compileNodes_eq_ok {done steps : List Step} {nodes : List Node}
    (h : compileNodes host known scope done nodes = .ok steps) :
    ∃ new, steps = done ++ new ∧
      List.Forall₂ (fun n s => compileNode host known scope n = .ok s) nodes new := by
  induction nodes generalizing done with
  | nil =>
    cases h
    exact ⟨[], by simp, .nil⟩
  | cons n r ih =>
    unfold compileNodes at h
    obtain ⟨s, hs, h⟩ := bind_eq_ok.1 h
    obtain ⟨-, h⟩ := ite_throw_eq_ok.1 h
    have hrest : compileNodes host known scope (done ++ [s]) r = .ok steps := by
      split at h
      · exact (ite_throw_eq_ok.1 h).2
      · exact h
    obtain ⟨new, rfl, hnew⟩ := ih hrest
    exact ⟨s :: new, by simp, .cons hs hnew⟩

/-! ### Edges -/

/-- A link leads to a node among those of its scope; only outside the root it may lead out. -/
def Link.StaysIn (scope : ScopeId) (ids : List NodeId) (l : Link) : Prop :=
  match l.target with
  | .node id => id ∈ ids
  | .exit => scope.isRoot = false

variable {ids : List NodeId} {done edges : Edges} {index : Nat}

theorem compileLink_staysIn {e : Edge} (hdone : ∀ l ∈ done.links, l.StaysIn scope ids)
    (h : compileLink host scope ids done index e = .ok edges) :
    ∀ l ∈ edges.links, l.StaysIn scope ids := by
  unfold compileLink at h
  obtain ⟨target, ht, h⟩ := bind_eq_ok.1 h
  obtain ⟨guard, -, h⟩ := bind_eq_ok.1 h
  split at h
  · cases h
  · rw [← pure_eq_ok.1 h]
    intro l hl
    rcases List.mem_append.1 hl with hl | hl
    · exact hdone l hl
    · rw [List.mem_singleton.1 hl]
      unfold compileTarget at ht
      split_ifs at ht with hexits hroot hmem <;> cases ht
      · simpa [Link.StaysIn] using hroot
      · exact hmem

theorem compileEdge_staysIn {e : Edge} (hdone : ∀ l ∈ done.links, l.StaysIn scope ids)
    (h : compileEdge host scope ids done index e = .ok edges) :
    ∀ l ∈ edges.links, l.StaysIn scope ids := by
  unfold compileEdge at h
  split_ifs at h
  · unfold compileInvalidEdge at h
    split_ifs at h
    cases h
    exact hdone
  · exact compileLink_staysIn hdone h

theorem compileEdges_staysIn {es : List Edge} (hdone : ∀ l ∈ done.links, l.StaysIn scope ids)
    (h : compileEdges host scope ids done index es = .ok edges) :
    ∀ l ∈ edges.links, l.StaysIn scope ids := by
  -- the links made so far are carried along
  induction es generalizing done index with
  | nil =>
    cases h
    exact hdone
  | cons e r ih =>
    unfold compileEdges at h
    obtain ⟨next, he, h⟩ := bind_eq_ok.1 h
    exact ih (compileEdge_staysIn hdone he) h

/-! ### Scopes -/

namespace Area

variable {a : Area}

theorem contains_iff {id : NodeId} : a.contains id = true ↔ id ∈ a.steps.map Step.id := by
  simp [contains, step?, List.find?_isSome]

theorem step?_id {id : NodeId} {s : Step} (h : a.step? id = some s) : s.id = id := by
  simpa using List.find?_some h

theorem step?_mem {id : NodeId} {s : Step} (h : a.step? id = some s) : s ∈ a.steps :=
  List.mem_of_find?_eq_some h

/-- All names in a scope resolve, the scopes that its steps enter being known. -/
structure IsClosed (known : List ScopeId) (a : Area) : Prop where
  entry : a.contains a.entry
  links : ∀ l ∈ a.links, l.StaysIn a.id (a.steps.map Step.id)
  targets : ∀ s ∈ a.steps, ∀ t ∈ s.targets, t ∈ known

end Area

theorem compileEntry_mem {f : Flow} {entry : NodeId} (h : compileEntry scope f = .ok entry) :
    entry ∈ f.nodes.map Node.id := by
  unfold compileEntry at h
  split at h
  · split_ifs at h with hany
    cases h
    simpa using hany
  · rename_i n r _ hnodes
    cases h
    simp [hnodes]
  · cases h

/-- What a compiled scope is made of. -/
theorem compileArea_eq_ok {f : Flow} {a : Area} (h : compileArea host known scope f = .ok a) :
    a.id = scope ∧ compileNodes host known scope [] f.nodes = .ok a.steps ∧
      compileEntry scope f = .ok a.entry ∧
      compileEdges host scope (a.steps.map Step.id) {} 0 f.edges =
        .ok ⟨a.links, a.invalidTargets⟩ := by
  unfold compileArea at h
  obtain ⟨-, h⟩ := ite_throw_eq_ok.1 h
  split at h
  · cases h
  · obtain ⟨steps, hsteps, h⟩ := bind_eq_ok.1 h
    obtain ⟨entry, hentry, h⟩ := bind_eq_ok.1 h
    obtain ⟨edges, hedges, h⟩ := bind_eq_ok.1 h
    rw [← pure_eq_ok.1 h]
    exact ⟨rfl, hsteps, hentry, hedges⟩

/-- The steps of a compiled scope are its nodes, in order. -/
theorem compileArea_steps {f : Flow} {a : Area} (h : compileArea host known scope f = .ok a) :
    List.Forall₂ (fun n s => compileNode host known scope n = .ok s) f.nodes a.steps := by
  obtain ⟨new, hnew, hnodes⟩ := compileNodes_eq_ok (compileArea_eq_ok h).2.1
  rw [List.nil_append] at hnew
  rwa [hnew]

theorem compileArea_nodes {f : Flow} {a : Area} (h : compileArea host known scope f = .ok a) :
    a.steps.map Step.node = f.nodes := by
  rw [map_eq_map_of_forall₂ (g := id) ((compileArea_steps h).flip.imp fun s n hn =>
    (compileNode_eq_ok hn).1), List.map_id]

theorem compileArea_isClosed {f : Flow} {a : Area} (h : compileArea host known scope f = .ok a) :
    a.IsClosed known := by
  obtain ⟨hid, -, hentry, hedges⟩ := compileArea_eq_ok h
  refine ⟨?_, ?_, ?_⟩
  · rw [Area.contains_iff, show Step.id = Node.id ∘ Step.node from rfl, ← List.map_map,
      compileArea_nodes h]
    exact compileEntry_mem hentry
  · rw [hid]
    exact compileEdges_staysIn (by simp) hedges
  · intro s hs t ht
    obtain ⟨n, -, hn⟩ := exists_of_forall₂_right (compileArea_steps h) hs
    exact compileNode_targets hn ht

/-! ### Graphs -/

namespace Graph

variable {g : Graph}

theorem area?_id {s : ScopeId} {a : Area} (h : g.area? s = some a) : a.id = s := by
  simpa using List.find?_some h

theorem area?_mem {s : ScopeId} {a : Area} (h : g.area? s = some a) : a ∈ g.areas :=
  List.mem_of_find?_eq_some h

theorem exists_area?_iff {s : ScopeId} : (∃ a, g.area? s = some a) ↔ s ∈ g.scopeIds := by
  rw [← Option.isSome_iff_exists]
  simp [area?, scopeIds, List.find?_isSome]

/-- Scopes that have different addresses are found by them. -/
theorem area?_eq_some {a : Area} (hids : g.scopeIds.Nodup) (ha : a ∈ g.areas) :
    g.area? a.id = some a := by
  obtain ⟨b, hb⟩ := exists_area?_iff.2 (List.mem_map_of_mem (f := Area.id) ha)
  rw [hb, List.inj_on_of_nodup_map hids (area?_mem hb) ha (area?_id hb)]

/-- There is a root, and all names in the scopes of a graph resolve. -/
structure IsClosed (g : Graph) : Prop where
  root : ScopeId.root ∈ g.scopeIds
  areas : ∀ a ∈ g.areas, a.IsClosed g.scopeIds

end Graph

/-- A compiled graph keeps the flow and the predicates, and its areas are the scopes compiled, in
order. -/
theorem Host.compile_eq_ok {f : Flow} {g : Graph} (h : host.compile f = .ok g) :
    g.flow = f ∧ g.predicates = host.predicates ∧
      List.Forall₂ (fun (p : ScopeId × Flow) a =>
        compileArea host (f.scopes.map (·.1)) p.1 p.2 = .ok a) f.scopes g.areas := by
  unfold Host.compile at h
  obtain ⟨-, h⟩ := ite_throw_eq_ok.1 h
  obtain ⟨areas, hareas, h⟩ := bind_eq_ok.1 h
  obtain ⟨-, -, h⟩ := bind_eq_ok.1 h
  obtain ⟨-, -, h⟩ := bind_eq_ok.1 h
  rw [← pure_eq_ok.1 h]
  exact ⟨rfl, rfl, mapM_eq_ok.1 hareas⟩

/-- The areas of a compiled graph have passed all checks. -/
theorem Host.compile_checks {f : Flow} {g : Graph} (h : host.compile f = .ok g) :
    checkRecursion g.areas = .ok () ∧ ∀ a ∈ g.areas, checkCycles a = .ok () ∧
      checkDeadEnds a = .ok () := by
  unfold Host.compile at h
  obtain ⟨-, h⟩ := ite_throw_eq_ok.1 h
  obtain ⟨areas, -, h⟩ := bind_eq_ok.1 h
  obtain ⟨⟨⟩, hrecursion, h⟩ := bind_eq_ok.1 h
  obtain ⟨⟨⟩, hchecks, h⟩ := bind_eq_ok.1 h
  rw [← pure_eq_ok.1 h]
  refine ⟨hrecursion, fun a ha => ?_⟩
  obtain ⟨⟨⟩, hcycles, hends⟩ := bind_eq_ok.1 (forM_eq_ok.1 hchecks a ha)
  exact ⟨hcycles, hends⟩

/-- A flow compiles to a graph when each pass of the compilation makes its part of it. -/
theorem Host.compile_of_passes {f : Flow} {g : Graph} (hflow : g.flow = f)
    (hpredicates : g.predicates = host.predicates) (hid : Text.isBlankText f.id = false)
    (hareas : f.scopes.mapM (fun p => compileArea host (f.scopes.map (·.1)) p.1 p.2) = .ok g.areas)
    (hrecursion : checkRecursion g.areas = .ok ())
    (hchecks : (g.areas.forM fun a => do checkCycles a; checkDeadEnds a) = .ok ())
    (hwarnings : g.areas.flatMap Area.warnings = g.warnings) : host.compile f = .ok g := by
  obtain ⟨flow, areas, warnings, predicates⟩ := g
  dsimp only at hflow hpredicates hareas hrecursion hchecks hwarnings
  subst hflow hpredicates hwarnings
  unfold Host.compile
  refine ite_throw_eq_ok.2 ⟨by simpa using hid, bind_eq_ok.2 ⟨areas, hareas, ?_⟩⟩
  exact bind_eq_ok.2 ⟨(), hrecursion, bind_eq_ok.2 ⟨(), hchecks, rfl⟩⟩

/-- Where a conversation does not end, an edge can always be taken. -/
theorem Graph.IsCompiled.exists_fallback {g : Graph} (h : g.IsCompiled) {a : Area}
    (ha : a ∈ g.areas) {s : Step} (hs : s ∈ a.steps) (hfinal : s.node.kind.isFinal = false) :
    ∃ l ∈ a.outgoing s.id, l.guard.isFallback = true := by
  obtain ⟨host, f, hg⟩ := h
  have hends := ((Host.compile_checks hg).2 a ha).2
  unfold checkDeadEnds at hends
  split at hends
  · cases hends
  · rename_i hnone
    have hpassed := List.find?_eq_none.1 hnone s hs
    simpa [hfinal] using hpassed

/-- What a flow compiles to depends neither on its version nor on its record. -/
theorem Host.compile_restamped {f : Flow} {g : Graph} (h : host.compile f = .ok g)
    (version : Version) (record : Option VersionRecord) :
    host.compile { f with version := version, record := record } =
      .ok { g with flow := { f with version := version, record := record } } := by
  obtain ⟨id, v, entry, nodes, edges, subgraphs, r⟩ := f
  unfold Host.compile at h ⊢
  obtain ⟨hid, h⟩ := ite_throw_eq_ok.1 h
  obtain ⟨areas, hareas, h⟩ := bind_eq_ok.1 h
  obtain ⟨_, hrecursion, h⟩ := bind_eq_ok.1 h
  obtain ⟨_, hchecks, h⟩ := bind_eq_ok.1 h
  rw [← pure_eq_ok.1 h]
  -- only the outermost scope bears the stamp, and nothing is compiled from it
  refine ite_throw_eq_ok.2
    ⟨hid, bind_eq_ok.2 ⟨areas, ?_, bind_eq_ok.2 ⟨_, hrecursion, bind_eq_ok.2 ⟨_, hchecks, rfl⟩⟩⟩⟩
  simp only [Flow.scopes, Flow.scopesAt, List.map_cons, List.mapM_cons] at hareas ⊢
  exact hareas

theorem Host.compile_scopeIds {f : Flow} {g : Graph} (h : host.compile f = .ok g) :
    g.scopeIds = f.scopes.map (·.1) := by
  obtain ⟨-, -, hareas⟩ := Host.compile_eq_ok h
  exact map_eq_map_of_forall₂ (hareas.flip.imp fun a p ha => (compileArea_eq_ok ha).1)

theorem Flow.root_mem_scopes (f : Flow) : (ScopeId.root, f) ∈ f.scopes := by
  cases f
  rw [Flow.scopes, Flow.scopesAt]
  exact List.mem_cons_self

theorem Graph.IsCompiled.isClosed {g : Graph} (h : g.IsCompiled) : g.IsClosed := by
  obtain ⟨host, f, hg⟩ := h
  have hids := Host.compile_scopeIds hg
  refine ⟨?_, fun a ha => ?_⟩
  · rw [hids]
    exact List.mem_map_of_mem f.root_mem_scopes
  · obtain ⟨p, -, hp⟩ := exists_of_forall₂_right (Host.compile_eq_ok hg).2.2 ha
    rw [hids]
    exact compileArea_isClosed hp

/-- The nodes in the scopes of a compiled flow stand, compiled, in the areas of its graph. -/
theorem Host.compile_node_mem {f : Flow} {g : Graph} (h : host.compile f = .ok g)
    {p : ScopeId × Flow} (hp : p ∈ f.scopes) {n : Node} (hn : n ∈ p.2.nodes) :
    ∃ a ∈ g.areas, ∃ s ∈ a.steps, compileNode host (f.scopes.map (·.1)) p.1 n = .ok s := by
  obtain ⟨a, ha, hpa⟩ := exists_of_forall₂_right (Host.compile_eq_ok h).2.2.flip hp
  obtain ⟨s, hs, hns⟩ := exists_of_forall₂_right (compileArea_steps hpa).flip hn
  exact ⟨a, ha, s, hs, hns⟩

/-! ### Paths -/

/-- Some fork in the scopes of a flow offers a path. -/
def Flow.Offers (f : Flow) (path : PathId) : Prop :=
  ∃ p ∈ f.scopes, ∃ n ∈ p.2.nodes, n.isFork = true ∧ path ∈ n.paths

theorem compileNode_pathScope? {n : Node} {s : Step} (h : compileNode host known scope n = .ok s)
    {path : PathId} (hpath : path ∈ n.paths) : ∃ t, s.pathScope? path = some t := by
  obtain ⟨-, -, hpaths⟩ := compileNode_eq_ok h
  obtain ⟨p, hp, hname, -⟩ := exists_of_forall₂_right hpaths.flip hpath
  have hfound : (s.paths.find? fun p => p.1 = path).isSome := by
    rw [List.find?_isSome]
    exact ⟨p, hp, by simpa using hname⟩
  obtain ⟨q, hq⟩ := Option.isSome_iff_exists.1 hfound
  exact ⟨q.2, by rw [Step.pathScope?, hq, Option.map_some]⟩

/-- A path that a fork offers leads into some scope. -/
theorem Graph.IsCompiled.pathScopes_of_offers {g : Graph} (h : g.IsCompiled) {path : PathId}
    (hpath : g.flow.Offers path) : (g.pathScopes path).isEmpty = false := by
  obtain ⟨host, f, hg⟩ := h
  rw [(Host.compile_eq_ok hg).1] at hpath
  obtain ⟨p, hp, n, hn, -, hmem⟩ := hpath
  obtain ⟨a, ha, s, hs, hns⟩ := Host.compile_node_mem hg hp hn
  obtain ⟨t, ht⟩ := compileNode_pathScope? hns hmem
  have hmem : t ∈ g.pathScopes path := by
    rw [Graph.pathScopes, List.mem_eraseDups, List.mem_flatMap]
    exact ⟨a, ha, List.mem_filterMap.2 ⟨s, hs, ht⟩⟩
  rw [List.isEmpty_eq_false_iff]
  exact List.ne_nil_of_mem hmem

/-! ### A compiled flow -/

/-- The graph of `Samples.detour`. -/
def Samples.detourGraph (version : Version) : Graph where
  flow := Samples.detour version
  areas := [
    { id := .root
      entry := "ask"
      steps := [
        ⟨.question "ask" "ready" "Are you ready?", none, none, none, []⟩,
        ⟨.subgraphRef "call" "side", none, none, some ⟨"side"⟩, []⟩,
        ⟨.terminal "end", none, none, none, []⟩]
      links := [⟨0, "ask", .node "call", .always, false⟩, ⟨1, "call", .node "end", .always, false⟩]
      invalidTargets := [] },
    { id := ⟨"side"⟩
      entry := "note"
      steps := [⟨.action "note", none, none, none, []⟩]
      links := [⟨0, "note", .exit, .always, false⟩]
      invalidTargets := [] }]
  warnings := []
  predicates := .builtin

theorem Samples.compile_detour (version : Version) :
    Host.builtin.compile (Samples.detour version) = .ok (Samples.detourGraph version) :=
  Host.compile_of_passes rfl rfl (by cbv) (by with_unfolding_all rfl) rfl rfl rfl

theorem Samples.detourGraph_isCompiled (version : Version) :
    (Samples.detourGraph version).IsCompiled :=
  ⟨.builtin, Samples.detour version, Samples.compile_detour version⟩

end Parley

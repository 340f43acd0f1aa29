import Parley.Proofs.Graph.Reordered
import Parley.Proofs.Layer.Precedence

/-!
# A layer that holds a whole flow

A layer can declare all of a flow.  Merged on its own it gives that flow again: no field is lost on
the way into the draft and out of it, and only the nodes of each scope change places, so that the
entry has to be set.

* `Flow.IsTidy`: a scope in which nothing is said twice;
* `NodePatch.overlay_blank`, `Log.settings_nil`: the first patch of an element;
* `Draft.Holds`, `Draft.Holds.node`, `Draft.Holds.edge`: what a draft holds of whole nodes and
  edges;
* `Draft.Holds.finish`: a finished draft is a scope with these nodes and edges;
* `Layer.merge_ofFlow`;
* `Samples.errand`: a flow whose first node comes last in the merge.
-/

namespace Parley

/-- A scope in which nothing is said twice: edges have names of their own and no priorities, and
lists no repeats.  Subgraphs are sorted by name, as always. -/
structure Flow.IsTidy (d : Flow) : Prop where
  keys : (d.edges.map Edge.key).Nodup
  priorities : ∀ e ∈ d.edges, e.priority = none
  dependsOn : ∀ n ∈ d.nodes, n.dependsOn.Nodup
  extraGuards : ∀ n ∈ d.nodes, n.extraGuards.Nodup
  names : Dict.Ordered d.subgraphs

/-! ### The first patch of an element -/

theorem appendNew_of_nodup {α : Type} [DecidableEq α] {xs ys : List α} (h : (xs ++ ys).Nodup) :
    appendNew xs ys = xs ++ ys := by
  unfold appendNew
  induction ys generalizing xs with
  | nil => rw [List.append_nil, List.foldl_nil]
  | cons y ys ih =>
    have hy : y ∉ xs := fun hy => (List.nodup_append.1 h).2.2 y hy y List.mem_cons_self rfl
    rw [List.append_cons] at h
    rw [List.foldl_cons, if_neg hy, ih h, ← List.append_cons]

/-- A patch that is laid over nothing stays as it is. -/
theorem NodePatch.overlay_blank {p : NodePatch} (hdependsOn : p.dependsOn.Nodup)
    (hguards : p.extraGuards.Nodup) (hremove : p.remove = false) :
    NodePatch.overlay { id := p.id } p = p := by
  have hdependsOn : appendNew [] p.dependsOn = p.dependsOn := appendNew_of_nodup hdependsOn
  have hguards : appendNew [] p.extraGuards = p.extraGuards := appendNew_of_nodup hguards
  have hui : overlayUi none p.ui = p.ui := by
    cases p.ui <;> rfl
  unfold overlay
  rw [hdependsOn, hguards, hui, ← hremove]
  simp only [Option.or_none]

theorem NodePatch.toNode?_ofNode (n : Node) : (NodePatch.ofNode n).toNode? n.id = some n := by
  obtain ⟨id, kind, key, prompt, guard, when_, dependsOn, extraGuards, validator, subgraph, paths,
    reentrant, priority, ui⟩ := n
  cases paths <;> cases reentrant <;> rfl

theorem EdgePatch.toEdge_ofEdge (e : Edge) : (EdgePatch.ofEdge e).toEdge = e := by
  obtain ⟨id, source, target, guard, onInvalid, reentrant, priority⟩ := e
  cases onInvalid <;> cases reentrant <;> rfl

namespace Log

theorem field_none (site : Site) (name : String) (value : Json) (log : Log) :
    (field site name none value log).conflicts = log.conflicts := by
  cases value <;> (unfold field; rfl)

/-- Settings that are laid over nothing are no conflict. -/
theorem settings_nil (site : Site) (upper : Dict Json) (log : Log) :
    (settings site [] upper log).conflicts = log.conflicts := by
  unfold settings
  induction upper generalizing log with
  | nil => rfl
  | cons m upper ih =>
    rw [List.foldl_cons, ih]
    exact field_none site m.1 m.2 log

end Log

/-! ### Drafts -/

namespace Draft

/-- What a draft holds after a layer has declared nodes and edges, each of them once. -/
structure Holds (layer : String) (entry : Option NodeId) (nodes : List Node) (edges : List Edge)
    (d : Draft) : Prop where
  entry : d.entry = entry.map (layer, ·)
  declared : d.declared = nodes.map Node.id
  nodes : (d.nodes.map fun e => (e.1, e.2.patch)).Perm
      (nodes.map fun n => (n.id, NodePatch.ofNode n))
  removed : d.removed = []
  edges : d.edges.map (fun e => (e.1, e.2.patch)) = edges.map fun e => (e.key, EdgePatch.ofEdge e)
  conflicts : d.conflicts = []

section

variable (before : String) {layer : String} {entry : Option NodeId} {nodes : List Node}
    {edges : List Edge} {d : Draft}

theorem holds_entry (layer : String) (entry : Option NodeId) :
    Holds layer entry [] []
      (entry.toList.foldl (fun d id => d.declare before (layer, .entry id)) {}) := by
  cases entry <;> exact ⟨rfl, rfl, .nil, rfl, rfl, rfl⟩

/-- What the patch of a whole node makes of a draft to which the node is new. -/
theorem patchNode_ofNode (layer : String) {n : Node} (hdeclared : n.id ∉ d.declared)
    (hnew : n.id ∉ d.nodes.map Prod.fst) (hdependsOn : n.dependsOn.Nodup)
    (hguards : n.extraGuards.Nodup) :
    ∃ origins, d.patchNode before layer (.ofNode n) =
      { d with
        declared := d.declared ++ [n.id]
        nodes := d.nodes.insert n.id ⟨.ofNode n, origins⟩
        removed := d.removed.filter (· ≠ n.id) } := by
  have hoverlay : NodePatch.overlay { id := n.id } (.ofNode n) = .ofNode n :=
    NodePatch.overlay_blank (p := .ofNode n) hdependsOn hguards rfl
  refine ⟨(Log.settings ⟨before ++ n.id, layer⟩ [] (NodePatch.ofNode n).settings
    ⟨[], d.conflicts⟩).origins, ?_⟩
  have hid : (NodePatch.ofNode n).id = n.id := rfl
  have hremove : ¬ (NodePatch.ofNode n).remove = true := Bool.false_ne_true
  have hblank : NodePatch.settings { id := n.id } = [] := rfl
  unfold patchNode
  rw [if_neg hremove, hid, if_neg hdeclared, Dict.get?_eq_none hnew, Option.getD_none]
  dsimp only
  rw [hoverlay, hblank, Log.settings_nil]

/-- What the patch of a whole edge makes of a draft to which the edge is new. -/
theorem patchEdge_ofEdge (layer : String) {e : Edge} (hnew : d.edges.get? e.key = none) :
    ∃ origins, d.patchEdge before layer (.ofEdge e) =
      { d with edges := d.edges ++ [(e.key, ⟨.ofEdge e, origins⟩)] } := by
  refine ⟨(Log.settings ⟨before ++ e.key, layer⟩ [] (EdgePatch.ofEdge e).settings
    ⟨[], d.conflicts⟩).origins, ?_⟩
  have hkey : (EdgePatch.ofEdge e).key = e.key := rfl
  have hremove : ¬ (EdgePatch.ofEdge e).remove = true := Bool.false_ne_true
  unfold patchEdge
  rw [if_neg hremove, hkey, hnew]
  dsimp only [Option.elim_none]
  rw [Table.set_of_get?_eq_none hnew, Log.settings_nil]
  rfl

/-- A node that is new. -/
theorem Holds.node (h : d.Holds layer entry nodes edges) {n : Node} (hid : n.id ∉ nodes.map Node.id)
    (hdependsOn : n.dependsOn.Nodup) (hguards : n.extraGuards.Nodup) :
    (d.declare before (layer, .node (.ofNode n))).Holds layer entry (nodes ++ [n]) edges := by
  have hkeys : (d.nodes.map Prod.fst).Perm (nodes.map Node.id) := by
    simpa [Function.comp_def] using h.nodes.map Prod.fst
  have hnew : n.id ∉ d.nodes.map Prod.fst := fun hmem => hid (hkeys.mem_iff.1 hmem)
  obtain ⟨origins, hpatch⟩ :=
    patchNode_ofNode before layer (h.declared ▸ hid) hnew hdependsOn hguards
  show (d.patchNode before layer (.ofNode n)).Holds _ _ _ _
  rw [hpatch]
  refine ⟨h.entry, ?_, ?_, ?_, h.edges, h.conflicts⟩
  · rw [h.declared, List.map_append, List.map_singleton]
  · rw [List.map_append, List.map_singleton]
    refine ((Dict.insert_perm hnew _).map _).trans ?_
    exact (h.nodes.cons _).trans (List.perm_append_singleton _ _).symm
  · rw [h.removed, List.filter_nil]

/-- An edge that is new. -/
theorem Holds.edge (h : d.Holds layer entry nodes edges) {e : Edge}
    (hkey : e.key ∉ edges.map Edge.key) :
    (d.declare before (layer, .edge (.ofEdge e))).Holds layer entry nodes (edges ++ [e]) := by
  have hkeys : d.edges.map Prod.fst = edges.map Edge.key := by
    simpa [Function.comp_def] using congrArg (List.map Prod.fst) h.edges
  have hnew : d.edges.get? e.key = none := by
    rw [← hkeys, Table.mem_keys_iff] at hkey
    simpa using hkey
  obtain ⟨origins, hpatch⟩ := patchEdge_ofEdge before layer hnew
  show (d.patchEdge before layer (.ofEdge e)).Holds _ _ _ _
  rw [hpatch]
  refine ⟨h.entry, h.declared, h.nodes, h.removed, ?_, h.conflicts⟩
  rw [List.map_append, List.map_append, h.edges, List.map_singleton, List.map_singleton]

/-- Nodes one after the other.  Each is new as long as no id comes twice among all of them. -/
theorem Holds.nodes_run (h : d.Holds layer entry nodes edges) {ns : List Node}
    (hids : ((nodes ++ ns).map Node.id).Nodup) (hdependsOn : ∀ n ∈ ns, n.dependsOn.Nodup)
    (hguards : ∀ n ∈ ns, n.extraGuards.Nodup) :
    (ns.foldl (fun d n => d.declare before (layer, .node (.ofNode n))) d).Holds layer entry
      (nodes ++ ns) edges := by
  induction ns generalizing d nodes with
  | nil => simpa using h
  | cons n ns ih =>
    rw [List.forall_mem_cons] at hdependsOn hguards
    have hid : n.id ∉ nodes.map Node.id := fun hmem =>
      List.disjoint_of_nodup_append (List.map_append ▸ hids) hmem List.mem_cons_self
    rw [List.append_cons] at hids ⊢
    exact ih (h.node before hid hdependsOn.1 hguards.1) hids hdependsOn.2 hguards.2

/-- Edges one after the other. -/
theorem Holds.edges_run (h : d.Holds layer entry nodes edges) {es : List Edge}
    (hkeys : ((edges ++ es).map Edge.key).Nodup) :
    (es.foldl (fun d e => d.declare before (layer, .edge (.ofEdge e))) d).Holds layer entry nodes
      (edges ++ es) := by
  induction es generalizing d edges with
  | nil => simpa using h
  | cons e es ih =>
    have hkey : e.key ∉ edges.map Edge.key := fun hmem =>
      List.disjoint_of_nodup_append (List.map_append ▸ hkeys) hmem List.mem_cons_self
    rw [List.append_cons] at hkeys ⊢
    exact ih (h.edge before hkey) hkeys

/-- A draft holds all that a layer with a whole scope declares. -/
theorem holds_ofFlow (layer : String) {f : Flow} (hids : (f.nodes.map Node.id).Nodup)
    (hf : f.IsTidy) :
    (ofDeclarations before ((LayerGraph.ofFlow f).declarations.map (layer, ·))).Holds layer
      f.entry f.nodes
      f.edges := by
  obtain ⟨id, version, entry, nodes, edges, subgraphs, record⟩ := f
  have hnodes := (holds_entry before layer entry).nodes_run before hids hf.dependsOn hf.extraGuards
  have hedges := hnodes.edges_run before hf.keys
  rw [ofDeclarations, LayerGraph.ofFlow, LayerGraph.declarations]
  simpa only [List.map_append, List.map_map, List.foldl_append, List.foldl_map, Function.comp_apply,
    List.nil_append] using hedges

/-- Without priorities nothing is moved. -/
theorem byPriority_of_forall_none {α : Type} {priority : α → Option Int} {xs : List α}
    (h : ∀ x ∈ xs, priority x = none) : byPriority priority xs = xs := by
  refine List.mergeSort_of_pairwise (List.pairwise_of_forall_mem_list fun a ha b hb => ?_)
  rw [h a ha, h b hb]
  exact decide_eq_true le_rfl

theorem Holds.finishEdges (h : d.Holds layer entry nodes edges)
    (hpriorities : ∀ e ∈ edges, e.priority = none) :
    d.finishEdges = edges := by
  have hall : d.edges.map (fun e => e.2.patch.toEdge) = edges := by
    simpa [Function.comp_def, EdgePatch.toEdge_ofEdge] using
      congrArg (List.map fun e : String × EdgePatch => e.2.toEdge) h.edges
  rw [Draft.finishEdges, hall, h.removed, byPriority_of_forall_none]
  · simp
  · simpa using hpriorities

/-- A finished draft is a scope with the nodes and edges that it holds. -/
theorem Holds.finish (h : d.Holds layer entry nodes edges)
    (hpriorities : ∀ e ∈ edges, e.priority = none) :
    ∃ base, d.finish before = .ok base ∧
      base.entryNode? = entry.or (nodes.head?.map Node.id) ∧ base.nodes.Perm nodes ∧
      base.edges = edges := by
  have hperm : (d.nodes.map fun e => e.2.patch.toNode? e.1).Perm (nodes.map some) := by
    simpa [Function.comp_def, NodePatch.toNode?_ofNode] using
      h.nodes.map fun e : NodeId × NodePatch => e.2.toNode? e.1
  have hok : ∀ e ∈ d.nodes, ∃ n, finishNode before e.1 e.2 = .ok n := by
    intro e he
    obtain ⟨n, -, hn⟩ := List.mem_map.1 (hperm.mem_iff.1 (List.mem_map_of_mem he))
    refine ⟨n, ?_⟩
    rw [finishNode, ← hn]
  obtain ⟨base, hbase⟩ : ∃ base, d.finish before = .ok base :=
    exists_bind_iff.2 ((exists_mapM_iff.2 hok).imp fun ns hns => ⟨hns, _, rfl⟩)
  obtain ⟨ns, hns, hnodes, hedges, hentry⟩ := finish_eq_ok hbase
  have hsome : (d.nodes.map fun e => e.2.patch.toNode? e.1) = ns.map some :=
    map_eq_map_of_forall₂ hns
  rw [hsome, List.map_perm_map_iff (Option.some_injective _)] at hperm
  have hperm : base.nodes.Perm nodes := hnodes ▸ (byPriority_perm _ _).trans hperm
  refine ⟨base, hbase, ?_, hperm, hedges.trans (h.finishEdges hpriorities)⟩
  rw [Flow.entryNode?, hentry, h.entry, h.declared]
  cases entry with
  | some id => rfl
  | none =>
    -- without an entry of its own, the scope is entered at the node that was declared first
    cases nodes with
    | nil => simp [hperm.eq_nil]
    | cons n rest =>
      have hn : base.nodes.any (fun n' => n'.id = n.id) = true :=
        List.any_eq_true.2 ⟨n, hperm.mem_iff.2 List.mem_cons_self, decide_eq_true rfl⟩
      simp [hn]

end

end Draft

/-! ### Scopes -/

theorem Flow.scopesAt_eq (at_ : ScopeId) (f : Flow) :
    f.scopesAt at_ = (at_, f) :: subgraphScopes at_ f.subgraphs := by
  cases f
  rw [scopesAt]

theorem LayerGraph.ofSubgraphs_eq (subgraphs : List (String × Flow)) :
    ofSubgraphs subgraphs = subgraphs.map fun s => (s.1, ofFlow s.2) := by
  induction subgraphs with
  | nil => rfl
  | cons s subgraphs ih =>
    obtain ⟨name, f⟩ := s
    rw [ofSubgraphs, ih, List.map_cons]

namespace Overlay

/-- Subgraphs with new names are put one after the other. -/
theorem stackSubgraphs_eq (layer : String) {subgraphs : List (String × LayerGraph)}
    {below : List (String × Overlay)} (hnames : Dict.Ordered subgraphs)
    (hbelow : ∀ o ∈ below, ∀ s ∈ subgraphs, o.1 < s.1) :
    stackSubgraphs layer subgraphs below = below ++ subgraphs.map fun s =>
      (s.1, stack layer s.2 {}) := by
  induction subgraphs generalizing below with
  | nil => simp [stackSubgraphs]
  | cons s subgraphs ih =>
    obtain ⟨name, g⟩ := s
    obtain ⟨hname, hnames⟩ := List.pairwise_cons.1 hnames
    have hlast : ∀ o ∈ below, o.1 < name := fun o ho => hbelow o ho _ List.mem_cons_self
    have hnew : Dict.get? below name = none := by
      refine Dict.get?_eq_none fun hmem => ?_
      obtain ⟨o, ho, heq⟩ := List.mem_map.1 hmem
      exact (hlast o ho).ne heq
    rw [stackSubgraphs, hnew, Option.getD_none, Dict.insert_of_forall_lt hlast, ih hnames,
      List.append_assoc, List.singleton_append, List.map_cons]
    intro o ho s hs
    rcases List.mem_append.1 ho with ho | ho
    · exact hbelow o ho s (List.mem_cons_of_mem _ hs)
    · rw [List.mem_singleton.1 ho]
      exact hname s hs

theorem stack_ofFlow (layer : String) {f : Flow} (hnames : Dict.Ordered f.subgraphs) :
    stack layer (.ofFlow f) {} = ⟨(LayerGraph.ofFlow f).declarations.map (layer, ·),
      f.subgraphs.map fun s => (s.1, stack layer (.ofFlow s.2) {})⟩ := by
  obtain ⟨id, version, entry, nodes, edges, subgraphs, record⟩ := f
  have hsubgraphs : Dict.Ordered (LayerGraph.ofSubgraphs subgraphs) := by
    rw [LayerGraph.ofSubgraphs_eq]
    exact List.pairwise_map.2 hnames
  rw [LayerGraph.ofFlow, stack, stackSubgraphs_eq layer hsubgraphs (by simp),
    LayerGraph.ofSubgraphs_eq, List.map_map]
  rfl

/-- A scope that resolves to what a draft of its declarations comes to. -/
theorem resolve_eq_ok_of {before : String} {o : Overlay} {base : Flow}
    {subgraphs : List (String × Flow)}
    (hconflicts : (Draft.ofDeclarations before o.declarations).conflicts = [])
    (hbase : (Draft.ofDeclarations before o.declarations).finish before = .ok base)
    (hsubgraphs : resolveSubgraphs before o.subgraphs = .ok (subgraphs, [])) :
    o.resolve before = .ok ⟨{ base with subgraphs }, []⟩ := by
  obtain ⟨ds, below⟩ := o
  unfold resolve
  refine bind_eq_ok.2 ⟨base, hbase, bind_eq_ok.2 ⟨_, hsubgraphs, ?_⟩⟩
  rw [hconflicts]
  rfl

mutual

/-- What a layer declares of a whole flow resolves to that flow. -/
theorem resolve_ofFlow (layer : String) : ∀ (f : Flow) (at_ : ScopeId) (before : String),
    (∀ p ∈ f.scopesAt at_, (p.2.nodes.map Node.id).Nodup ∧ p.2.IsTidy) →
      ∃ g, (stack layer (.ofFlow f) {}).resolve before = .ok ⟨g, []⟩ ∧
        List.Forall₂ (fun p p' => p'.1 = p.1 ∧ p.2.IsReorderedAt p'.2) (f.scopesAt at_)
          (g.scopesAt at_)
  | ⟨id, version, entry, nodes, edges, subgraphs, record⟩, at_, before, hscopes => by
      rw [Flow.scopesAt, List.forall_mem_cons] at hscopes
      obtain ⟨⟨hids, htidy⟩, hinner⟩ := hscopes
      obtain ⟨fs, hfs, hnames, hreordered⟩ :=
        resolveSubgraphs_ofFlow layer subgraphs at_ before hinner
      have hholds := Draft.holds_ofFlow before layer hids htidy
      obtain ⟨base, hbase, hentry, hnodes, hedges⟩ := hholds.finish before htidy.priorities
      rw [stack_ofFlow layer htidy.names]
      refine ⟨{ base with subgraphs := fs }, resolve_eq_ok_of hholds.conflicts hbase hfs, ?_⟩
      rw [Flow.scopesAt, Flow.scopesAt_eq]
      exact .cons ⟨rfl, hentry, hnodes, hedges, hnames⟩ hreordered

theorem resolveSubgraphs_ofFlow (layer : String) :
    ∀ (subgraphs : List (String × Flow)) (at_ : ScopeId) (before : String),
      (∀ p ∈ Flow.subgraphScopes at_ subgraphs, (p.2.nodes.map Node.id).Nodup ∧ p.2.IsTidy) →
      ∃ fs, resolveSubgraphs before (subgraphs.map fun s => (s.1, stack layer (.ofFlow s.2) {})) =
        .ok (fs, []) ∧
        Dict.keys fs = Dict.keys subgraphs ∧
        List.Forall₂ (fun p p' => p'.1 = p.1 ∧ p.2.IsReorderedAt p'.2)
          (Flow.subgraphScopes at_ subgraphs) (Flow.subgraphScopes at_ fs)
  | [], at_, before, _ => ⟨[], rfl, rfl, .nil⟩
  | (name, f) :: r, at_, before, hscopes => by
      rw [Flow.subgraphScopes, List.forall_mem_append] at hscopes
      obtain ⟨g, hg, hfirst⟩ :=
        resolve_ofFlow layer f (at_.child name) (before ++ name ++ "/") hscopes.1
      obtain ⟨fs, hfs, hnames, hrest⟩ := resolveSubgraphs_ofFlow layer r at_ before hscopes.2
      refine ⟨(name, g) :: fs, ?_, congrArg (name :: ·) hnames, ?_⟩
      · rw [List.map_cons, resolveSubgraphs]
        exact bind_eq_ok.2 ⟨_, hg, bind_eq_ok.2 ⟨_, hfs, rfl⟩⟩
      · rw [Flow.subgraphScopes, Flow.subgraphScopes]
        exact List.rel_append hfirst hrest

end

end Overlay

namespace Layer

variable {host : Host} {f : Flow} {g : Graph}

/-- A layer on its own. -/
theorem merge_single {l : Layer} {m : Merged}
    (h : (Overlay.stack l.name l.graph {}).resolve "" = .ok m) :
    merge [l] = .ok { m with flow := { m.flow with id := l.id.getD "" } } := by
  have hid : flowId [l] = l.id.getD "" := by
    unfold flowId
    cases h : l.id <;> simp [h]
  unfold merge inOrder
  rw [List.mergeSort_singleton, ← hid]
  exact bind_eq_ok.2 ⟨m, h, rfl⟩

/-- **A layer that holds a whole flow loses nothing.**  Of a flow that compiles, it gives the same
scopes with their nodes in another order, and the flow that it gives compiles as well. -/
theorem merge_ofFlow (hg : host.compile f = .ok g) (hf : ∀ p ∈ f.scopes, p.2.IsTidy) (tier : Tier) :
    ∃ m, merge [.ofFlow tier f] = .ok m ∧ m.conflicts = [] ∧ m.flow.id = f.id ∧
      f.IsReordered m.flow ∧
      ∃ g', host.compile m.flow = .ok g' := by
  have hscopes : ∀ p ∈ f.scopes, (p.2.nodes.map Node.id).Nodup ∧ p.2.IsTidy := fun p hp =>
    ⟨(Host.compile_isWellFormedAt hg p hp).ids, hf p hp⟩
  obtain ⟨f', hresolve, hreordered⟩ :=
    Overlay.resolve_ofFlow (ofFlow tier f).name f .root "" hscopes
  have hmerge : merge [.ofFlow tier f] = .ok ⟨{ f' with id := f.id }, []⟩ := merge_single hresolve
  -- the root is given its id afterwards
  have hreordered : f.IsReordered { f' with id := f.id } := by
    rw [Flow.scopesAt_eq .root f, Flow.scopesAt_eq .root f', List.forall₂_cons] at hreordered
    obtain ⟨⟨-, hroot⟩, hinner⟩ := hreordered
    unfold Flow.IsReordered Flow.scopes
    rw [Flow.scopesAt_eq .root f, Flow.scopesAt_eq]
    exact .cons ⟨rfl, hroot.entry, hroot.nodes, hroot.edges, hroot.names⟩ hinner
  exact ⟨_, hmerge, rfl, rfl, hreordered, Host.compile_reordered hreordered rfl hg⟩

end Layer

namespace Samples

/-- A question, a detour through a subgraph, and an end that comes before both of them by
priority. -/
def errand : Flow where
  id := "errand"
  version := 4
  nodes := [
    .question "topic" "topic" "What is it about?",
    .subgraphRef "aside" "side",
    (Node.terminal "end").withPriority 5]
  edges := [.always "topic" "aside", .always "aside" "end"]
  subgraphs := [("side", side)]

/-- The graph of `errand`. -/
def errandGraph : Graph where
  flow := errand
  areas := [
    { id := .root
      entry := "topic"
      steps := [
        ⟨.question "topic" "topic" "What is it about?", none, none, none, []⟩,
        ⟨.subgraphRef "aside" "side", none, none, some ⟨"side"⟩, []⟩,
        ⟨(Node.terminal "end").withPriority 5, none, none, none, []⟩]
      links :=
        [⟨0, "topic", .node "aside", .always, false⟩, ⟨1, "aside", .node "end", .always, false⟩]
      invalidTargets := [] },
    { id := ⟨"side"⟩
      entry := "note"
      steps := [⟨.action "note", none, none, none, []⟩]
      links := [⟨0, "note", .exit, .always, false⟩]
      invalidTargets := [] }]
  warnings := []
  predicates := .builtin

/-- The flow that a layer with `errand` gives: the entries are set, and the end comes first. -/
def errandMerged : Flow where
  id := "errand"
  version := 1
  entry := some "topic"
  nodes := [
    (Node.terminal "end").withPriority 5,
    .subgraphRef "aside" "side",
    .question "topic" "topic" "What is it about?"]
  edges := [.always "topic" "aside", .always "aside" "end"]
  subgraphs := [("side", { side with version := 1, entry := some "note" })]

theorem merge_errand :
    Host.builtin.compile errand = .ok errandGraph ∧ (∀ p ∈ errand.scopes, p.2.IsTidy) ∧
      Layer.merge [.ofFlow .tenant errand] = .ok ⟨errandMerged, []⟩ ∧
      errand.IsReordered errandMerged ∧
      ∃ g', Host.builtin.compile errandMerged = .ok g' := by
  have hcompile : Host.builtin.compile errand = .ok errandGraph :=
    Host.compile_of_passes rfl rfl (by decide) (by with_unfolding_all rfl) rfl rfl rfl
  have htidy : ∀ p ∈ errand.scopes, p.2.IsTidy := by
    have hscopes : errand.scopes = [(.root, errand), (⟨"side"⟩, side)] := rfl
    rw [hscopes, List.forall_mem_cons, List.forall_mem_singleton]
    exact ⟨⟨by decide, by decide, by decide, by decide, List.pairwise_singleton _ _⟩,
      ⟨by decide, by decide, by decide, by decide, .nil⟩⟩
  have hmerge : Layer.merge [.ofFlow .tenant errand] = .ok ⟨errandMerged, []⟩ := by cbv
  obtain ⟨m, hm, -, -, hreordered, hmerged⟩ := Layer.merge_ofFlow hcompile htidy .tenant
  rw [hmerge, Except.ok.injEq] at hm
  subst hm
  exact ⟨hcompile, htidy, hmerge, hreordered, hmerged⟩

end Samples

end Parley

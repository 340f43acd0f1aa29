import Parley.Proofs.Layer.Scopes

/-!
# What layers add up to

Whatever tiers, names and subgraphs layers have, each scope of the merged flow can be read off their
declarations element by element and field by field: an element is there unless it was taken away
last, and a field has the value that was set last since then.

* `appendNew_eraseDups`, `Json.mergeObjects`: lists and objects that are set again and again;
* `Json.get?_overlayMembers`, `Json.get?_mergeObjects`: the members of merged objects;
* `Node.merged`, `Edge.merged`: an element as its patches describe it together;
* `Flow.IsMergeOf`: a scope as its declarations describe it together;
* `Draft.Tracks`: what a draft knows of the declarations that it has taken in;
* `Layer.merge_isMergeOf`.
-/

namespace Parley

/-! ### Fields that are set again -/

theorem appendNew_eraseDups {α : Type} [DecidableEq α] (xs ys : List α) :
    appendNew xs.eraseDups ys = (xs ++ ys).eraseDups := by
  unfold appendNew
  induction ys generalizing xs with
  | nil => rw [List.append_nil, List.foldl_nil]
  | cons y ys ih =>
    have hsnoc : (if y ∈ xs.eraseDups then xs.eraseDups else xs.eraseDups ++ [y]) =
        (xs ++ [y]).eraseDups := by
      rw [List.eraseDups_append]
      by_cases hy : y ∈ xs <;> simp [hy, List.removeAll, List.eraseDups_cons]
    rw [List.foldl_cons, hsnoc, ih, List.append_assoc, List.singleton_append]

namespace Json

/-- Objects merged from left to right, each laid over those before it; there is none without any. -/
def mergeObjects : List (Dict Json) → Option (Dict Json)
  | [] => none
  | d :: ds => some (ds.foldl overlayMembers d)

theorem mergeObjects_concat (ds : List (Dict Json)) (d : Dict Json) :
    mergeObjects (ds ++ [d]) = overlayUi (mergeObjects ds) (some d) := by
  cases ds with
  | nil => rfl
  | cons d' ds =>
    show some ((ds ++ [d]).foldl overlayMembers d') = some (overlayMembers _ d)
    rw [List.foldl_append]
    rfl

/-- The values of a member, one laid over the other. -/
def overlayAll (lower : Option Json) (values : List Json) : Option Json :=
  values.foldl (fun lower upper => some (lower.elim upper (overlay · upper))) lower

theorem overlayAll_append (lower : Option Json) (values more : List Json) :
    overlayAll lower (values ++ more) = overlayAll (overlayAll lower values) more :=
  List.foldl_append ..

/-- A member of a merged object is what the members of the two objects come to. -/
theorem get?_overlayMembers (lower : Dict Json) (upper : List (String × Json)) (key : String) :
    Dict.get? (overlayMembers lower upper) key =
      overlayAll (Dict.get? lower key) ((upper.filter fun m => m.1 = key).map Prod.snd) := by
  induction upper generalizing lower with
  | nil =>
    rw [overlayMembers]
    rfl
  | cons m upper ih =>
    obtain ⟨k, value⟩ := m
    rw [overlayMembers, ih, Dict.get?_insert, List.filter_cons]
    by_cases hk : k = key
    · subst hk
      simp only [decide_true, if_true, List.map_cons]
      cases Dict.get? lower k <;> rfl
    · simp [hk]

/-- A member of merged objects is what its values come to, from the first to the last. -/
theorem get?_mergeObjects {ds : List (Dict Json)} (hds : ∀ d ∈ ds, Dict.Ordered d) (key : String) :
    (mergeObjects ds).bind (Dict.get? · key) =
      overlayAll none (ds.filterMap (Dict.get? · key)) := by
  induction ds using List.reverseRecOn with
  | nil => rfl
  | append_singleton ds d ih =>
    have hlast : (d.filter fun m => m.1 = key).map Prod.snd = (Dict.get? d key).toList := by
      rw [(hds d (by simp)).filter_key]
      cases Dict.get? d key <;> rfl
    have hvalues : [d].filterMap (Dict.get? · key) = (Dict.get? d key).toList := by
      rw [List.filterMap_cons]
      cases Dict.get? d key <;> rfl
    rw [mergeObjects_concat, List.filterMap_append, overlayAll_append,
      ← ih fun d' hd' => hds d' (List.mem_append_left _ hd'), hvalues]
    cases mergeObjects ds with
    | none =>
      show Dict.get? d key = _
      cases Dict.get? d key <;> rfl
    | some lower =>
      show Dict.get? (overlayMembers lower d) key = _
      rw [get?_overlayMembers, hlast]
      rfl

end Json

/-! ### Elements -/

/-- A node as its patches describe it together: each field has the value that was set last, or else
its default; lists hold all that was put into them, and `ui` objects are merged.  There is no node
without a kind. -/
def Node.merged (id : NodeId) (ps : List NodePatch) : Option Node :=
  (lastSet NodePatch.kind ps).map fun kind => {
    id := id
    kind := kind
    key := lastSet NodePatch.key ps
    prompt := lastSet NodePatch.prompt ps
    guard := lastSet NodePatch.guard ps
    when := lastSet NodePatch.when ps
    dependsOn := (ps.flatMap NodePatch.dependsOn).eraseDups
    extraGuards := (ps.flatMap NodePatch.extraGuards).eraseDups
    validator := lastSet NodePatch.validator ps
    subgraph := lastSet NodePatch.subgraph ps
    paths := (lastSet NodePatch.paths ps).getD []
    reentrant := (lastSet NodePatch.reentrant ps).getD false
    priority := lastSet NodePatch.priority ps
    ui := Json.mergeObjects (ps.filterMap NodePatch.ui) }

/-- An edge as its patches describe it together.  Each of them says where the edge leads. -/
def Edge.merged (ps : List EdgePatch) : Option Edge :=
  ps.getLast?.map fun last => {
    id := lastSet EdgePatch.id ps
    source := last.source
    target := last.target
    guard := lastSet EdgePatch.guard ps
    onInvalid := (lastSet EdgePatch.onInvalid ps).getD false
    reentrant := (lastSet EdgePatch.reentrant ps).getD false
    priority := lastSet EdgePatch.priority ps }

/-- The patch that patches of a node come to. -/
def NodePatch.merged (id : NodeId) (ps : List NodePatch) : NodePatch where
  id := id
  kind := lastSet NodePatch.kind ps
  key := lastSet NodePatch.key ps
  prompt := lastSet NodePatch.prompt ps
  guard := lastSet NodePatch.guard ps
  when := lastSet NodePatch.when ps
  dependsOn := (ps.flatMap NodePatch.dependsOn).eraseDups
  extraGuards := (ps.flatMap NodePatch.extraGuards).eraseDups
  validator := lastSet NodePatch.validator ps
  subgraph := lastSet NodePatch.subgraph ps
  paths := lastSet NodePatch.paths ps
  reentrant := lastSet NodePatch.reentrant ps
  priority := lastSet NodePatch.priority ps
  ui := Json.mergeObjects (ps.filterMap NodePatch.ui)

theorem NodePatch.merged_concat (id : NodeId) (ps : List NodePatch) (p : NodePatch) :
    NodePatch.merged id (ps ++ [p]) = (NodePatch.merged id ps).overlay p := by
  have hui : Json.mergeObjects ((ps ++ [p]).filterMap NodePatch.ui) =
      overlayUi (Json.mergeObjects (ps.filterMap NodePatch.ui)) p.ui := by
    rw [List.filterMap_append]
    cases hp : p.ui with
    | none => cases h : Json.mergeObjects (ps.filterMap NodePatch.ui) <;> simp [hp, h, overlayUi]
    | some d => simp [hp, Json.mergeObjects_concat]
  unfold NodePatch.merged overlay
  simp only [lastSet_concat, hui, List.flatMap_append, List.flatMap_singleton, appendNew_eraseDups]

theorem NodePatch.toNode?_merged (id : NodeId) (ps : List NodePatch) :
    (NodePatch.merged id ps).toNode? id = Node.merged id ps := rfl

/-- The patch that patches of an edge come to. -/
def EdgePatch.merged (ps : List EdgePatch) : Option EdgePatch :=
  ps.getLast?.map fun last => {
    id := lastSet EdgePatch.id ps
    source := last.source
    target := last.target
    guard := lastSet EdgePatch.guard ps
    onInvalid := lastSet EdgePatch.onInvalid ps
    reentrant := lastSet EdgePatch.reentrant ps
    priority := lastSet EdgePatch.priority ps }

theorem EdgePatch.merged_concat (ps : List EdgePatch) (p : EdgePatch) :
    EdgePatch.merged (ps ++ [p]) =
      some ((EdgePatch.merged ps).elim (Draft.newEdge p) (·.overlay p)) := by
  rcases ps.eq_nil_or_concat' with rfl | ⟨init, last, rfl⟩
  · have hsingle {β : Type} (field : EdgePatch → Option β) : lastSet field [p] = field p := by
      rw [← List.nil_append [p], lastSet_concat]
      exact Option.or_none
    simp only [EdgePatch.merged, List.nil_append, List.getLast?_singleton, Option.map_some, hsingle]
    rfl
  · simp only [EdgePatch.merged, List.getLast?_concat, Option.map_some, Option.elim_some, overlay,
      lastSet_concat]

theorem EdgePatch.toEdge_merged (ps : List EdgePatch) :
    (EdgePatch.merged ps).map toEdge = Edge.merged ps := by
  unfold EdgePatch.merged Edge.merged
  rw [Option.map_map]
  rfl

/-! ### Scopes -/

namespace Declared

def nodePatches (ds : Declared) : List NodePatch := ds.filterMap fun d => d.2.node?

def edgePatches (ds : Declared) : List EdgePatch := ds.filterMap fun d => d.2.edge?

/-- The nodes that are declared at all, in order of their declarations. -/
def declaredIds (ds : Declared) : List NodeId :=
  (ds.nodePatches.filter fun p => !p.remove).map NodePatch.id

end Declared

/-- What a scope is, given the declarations for it. -/
structure Flow.IsMergeOf (f : Flow) (ds : Declared) : Prop where
  /-- The nodes are those that were not taken away last. -/
  node_iff : ∀ id, (∃ n ∈ f.nodes, n.id = id) ↔ ds.Stands (.node id)
  /-- Each node is what its patches come to since it was last taken away. -/
  nodes : ∀ n ∈ f.nodes, Node.merged n.id (ds.since (.node n.id)).nodePatches = some n
  nodes_order : f.nodes.Pairwise fun a b =>
    b.priority.getD 0 < a.priority.getD 0 ∨ a.priority.getD 0 = b.priority.getD 0 ∧ a.id < b.id
  /-- The edges are those that were not taken away last, without those at nodes that were. -/
  edge_iff : ∀ key, (∃ e ∈ f.edges, e.key = key) ↔ ds.Stands (.edge key) ∧
    ∀ p ∈ (ds.about (.edge key)).edgePatches.getLast?, ¬ ds.IsGone (.node p.source) ∧
      ¬ ds.IsGone (.node p.target)
  /-- Each edge is what its patches come to since it was last taken away. -/
  edges : ∀ e ∈ f.edges, Edge.merged (ds.since (.edge e.key)).edgePatches = some e
  edges_order : f.edges.Pairwise fun a b =>
    b.priority.getD 0 < a.priority.getD 0 ∨
      a.priority.getD 0 = b.priority.getD 0 ∧ ds.position (.edge a.key) < ds.position (.edge b.key)
  /-- The entry is the last one that was set, or else the node that was declared first among those
  that are there. -/
  entry : f.entry = (lastSet (fun d => d.2.entryId?) ds).or
    (ds.declaredIds.find? fun id => f.nodes.any fun n => n.id = id)

/-! ### Drafts -/

namespace Declared

variable {ds : Declared} {x : String × Declaration} {e : Element}

theorem since_concat_of_ne (he : x.2.element ≠ e) : since e (ds ++ [x]) = ds.since e := by
  rw [since_concat, if_neg he]

theorem isGone_concat_of_ne (he : x.2.element ≠ e) : IsGone e (ds ++ [x]) ↔ ds.IsGone e := by
  rw [isGone_concat, if_neg he]

theorem nodePatches_concat (ds : Declared) (x : String × Declaration) :
    nodePatches (ds ++ [x]) = ds.nodePatches ++ x.2.node?.toList := by
  unfold nodePatches
  rw [List.filterMap_append]
  cases h : x.2.node? <;> simp [h]

theorem edgePatches_concat (ds : Declared) (x : String × Declaration) :
    edgePatches (ds ++ [x]) = ds.edgePatches ++ x.2.edge?.toList := by
  unfold edgePatches
  rw [List.filterMap_append]
  cases h : x.2.edge? <;> simp [h]

theorem since_concat_node (ds : Declared) (layer : String) (p : NodePatch) (id : NodeId) :
    since (.node id) (ds ++ [(layer, .node p)]) =
      if p.id = id then if p.remove then [] else ds.since (.node id) ++ [(layer, .node p)]
      else ds.since (.node id) := by
  rw [since_concat]
  exact if_congr (iff_of_eq (Element.node.injEq ..)) rfl rfl

theorem isGone_concat_node (ds : Declared) (layer : String) (p : NodePatch) (id : NodeId) :
    IsGone (.node id) (ds ++ [(layer, .node p)]) ↔
      if p.id = id then p.remove = true else ds.IsGone (.node id) := by
  rw [isGone_concat]
  simp only [Declaration.element, Declaration.removes, Element.node.injEq]

theorem since_concat_edge (ds : Declared) (layer : String) (p : EdgePatch) (key : String) :
    since (.edge key) (ds ++ [(layer, .edge p)]) =
      if p.key = key then if p.remove then [] else ds.since (.edge key) ++ [(layer, .edge p)]
      else ds.since (.edge key) := by
  rw [since_concat]
  exact if_congr (iff_of_eq (Element.edge.injEq ..)) rfl rfl

theorem element_ne_node (hx : x.2.node? = none) (id : NodeId) : x.2.element ≠ .node id := by
  obtain ⟨layer, _ | p | p⟩ := x
  · nofun
  · cases hx
  · nofun

theorem element_ne_edge (hx : x.2.edge? = none) (key : String) : x.2.element ≠ .edge key := by
  obtain ⟨layer, _ | p | p⟩ := x
  · nofun
  · nofun
  · cases hx

end Declared

namespace Draft

/-- What a draft knows of the nodes of the declarations that it has taken in. -/
structure TracksNodes (declared : List NodeId) (nodes : Dict (Held NodePatch))
    (removed : List NodeId)
    (ds : Declared) : Prop where
  find_declared : ∀ p, declared.find? p = ds.declaredIds.find? p
  none_iff : ∀ id, nodes.get? id = none ↔ ds.since (.node id) = []
  patch : ∀ id held, nodes.get? id = some held →
    held.patch = NodePatch.merged id (ds.since (.node id)).nodePatches
  order : nodes.Ordered
  removed : ∀ id, id ∈ removed ↔ ds.IsGone (.node id)

/-- What a draft knows of the edges of the declarations that it has taken in. -/
structure TracksEdges (edges : Table String (Held EdgePatch)) (ds : Declared) : Prop where
  none_iff : ∀ key, edges.get? key = none ↔ ds.since (.edge key) = []
  patch : ∀ key, (edges.get? key).map Held.patch =
      EdgePatch.merged (ds.since (.edge key)).edgePatches
  order : (edges.map Prod.fst).Pairwise fun a b => ds.position (.edge a) < ds.position (.edge b)

variable {ds : Declared} {x : String × Declaration}

section Nodes

variable {declared : List NodeId} {nodes : Dict (Held NodePatch)} {removed : List NodeId}

theorem tracksNodes_nil : TracksNodes [] [] [] [] where
  find_declared _ := rfl
  none_iff _ := iff_of_true rfl rfl
  patch _ _ h := nomatch h
  order := .nil
  removed _ := iff_of_false List.not_mem_nil (Declared.not_isGone_nil _)

/-- Other declarations have nothing to do with nodes. -/
theorem TracksNodes.concat (h : TracksNodes declared nodes removed ds) (hx : x.2.node? = none) :
    TracksNodes declared nodes removed (ds ++ [x]) := by
  have hids : (ds ++ [x]).declaredIds = ds.declaredIds := by
    rw [Declared.declaredIds, Declared.nodePatches_concat, hx, Option.toList_none, List.append_nil,
      Declared.declaredIds]
  have hsince (id : NodeId) : Declared.since (.node id) (ds ++ [x]) = ds.since (.node id) :=
    Declared.since_concat_of_ne (Declared.element_ne_node hx id)
  refine ⟨?_, ?_, ?_, h.order, ?_⟩
  · rw [hids]
    exact h.find_declared
  · simp only [hsince]
    exact h.none_iff
  · simp only [hsince]
    exact h.patch
  · intro id
    rw [Declared.isGone_concat_of_ne (Declared.element_ne_node hx id)]
    exact h.removed id

/-- A node that is taken away. -/
theorem TracksNodes.remove (h : TracksNodes declared nodes removed ds) (layer : String)
    {p : NodePatch} (hp : p.remove = true) :
    TracksNodes declared (nodes.erase p.id) (p.id :: removed) (ds ++ [(layer, .node p)]) := by
  have hids : Declared.declaredIds (ds ++ [(layer, .node p)]) = ds.declaredIds := by
    rw [Declared.declaredIds, Declared.nodePatches_concat, List.filter_append, Declared.declaredIds]
    simp [Declaration.node?, hp]
  refine ⟨?_, ?_, ?_, h.order.erase p.id, ?_⟩
  · rw [hids]
    exact h.find_declared
  · intro id
    rw [Dict.get?_erase, Declared.since_concat_node, if_pos hp]
    split
    · exact iff_of_true rfl rfl
    · exact h.none_iff id
  · intro id held hheld
    rw [Dict.get?_erase] at hheld
    split at hheld
    · cases hheld
    · rename_i hid
      rw [Declared.since_concat_node, if_neg hid]
      exact h.patch id held hheld
  · intro id
    rw [Declared.isGone_concat_node, List.mem_cons]
    split
    · rename_i hid
      exact iff_of_true (.inl hid.symm) hp
    · rename_i hid
      rw [or_iff_right (Ne.symm hid), h.removed id]

/-- A node that is declared, perhaps again. -/
theorem TracksNodes.overlay (h : TracksNodes declared nodes removed ds) (layer : String)
    {p : NodePatch} (hp : p.remove = false) (origins : Origins) :
    TracksNodes (if p.id ∈ declared then declared else declared ++ [p.id])
      (nodes.insert p.id ⟨((nodes.get? p.id).getD ⟨{ id := p.id }, []⟩).patch.overlay p, origins⟩)
      (removed.filter (· ≠ p.id)) (ds ++ [(layer, .node p)]) := by
  have hids : Declared.declaredIds (ds ++ [(layer, .node p)]) = ds.declaredIds ++ [p.id] := by
    rw [Declared.declaredIds, Declared.nodePatches_concat, List.filter_append, Declared.declaredIds]
    simp [Declaration.node?, hp]
  have hsince (id : NodeId) : Declared.since (.node id) (ds ++ [(layer, .node p)]) =
      if p.id = id then ds.since (.node id) ++ [(layer, .node p)] else ds.since (.node id) := by
    rw [Declared.since_concat_node, hp]
    rfl
  -- what the patch is laid over
  have hbelow : ((nodes.get? p.id).getD ⟨{ id := p.id }, []⟩).patch =
      NodePatch.merged p.id (ds.since (.node p.id)).nodePatches := by
    cases hget : nodes.get? p.id with
    | none =>
      rw [(h.none_iff p.id).1 hget]
      rfl
    | some held => exact h.patch p.id held hget
  refine ⟨?_, ?_, ?_, h.order.insert p.id _, ?_⟩
  · intro q
    rw [hids, List.find?_append, ← h.find_declared]
    split
    · -- an id that is there already was found before, or will not be found now
      rename_i hmem
      cases hfind : declared.find? q with
      | some id => rfl
      | none =>
        have hq := List.find?_eq_none.1 hfind p.id hmem
        simp [hq]
    · rw [List.find?_append]
  · intro id
    rw [Dict.get?_insert, hsince]
    split
    · exact iff_of_false (Option.some_ne_none _) (by simp)
    · exact h.none_iff id
  · intro id held hheld
    rw [Dict.get?_insert] at hheld
    rw [hsince]
    split at hheld
    · rename_i hid
      subst hid
      cases hheld
      rw [if_pos rfl, hbelow, Declared.nodePatches_concat, ← NodePatch.merged_concat]
      rfl
    · rename_i hid
      rw [if_neg hid]
      exact h.patch id held hheld
  · intro id
    rw [Declared.isGone_concat_node, List.mem_filter, h.removed id, hp]
    by_cases hid : p.id = id
    · simp [hid]
    · simp [hid, Ne.symm hid]

end Nodes

section Edges

variable {edges : Table String (Held EdgePatch)}

theorem tracksEdges_nil : TracksEdges [] [] where
  none_iff _ := iff_of_true rfl rfl
  patch _ := rfl
  order := .nil

theorem TracksEdges.mem_keys_iff (h : TracksEdges edges ds) (key : String) :
    key ∈ edges.map Prod.fst ↔ ds.since (.edge key) ≠ [] := by
  rw [Table.mem_keys_iff, Option.isSome_iff_ne_none, ne_eq, h.none_iff]

theorem TracksEdges.nodup (h : TracksEdges edges ds) : (edges.map Prod.fst).Nodup :=
  h.order.imp fun hlt heq => absurd (heq ▸ hlt) (lt_irrefl _)

/-- Edges that are there, and are not taken away now, stay in their places. -/
theorem TracksEdges.order_concat (h : TracksEdges edges ds) {keys : List String}
    (hkeys : keys.Sublist (edges.map Prod.fst))
    (hx : ∀ k ∈ keys, ¬ (x.2.element = .edge k ∧ x.2.removes = true)) :
    keys.Pairwise fun a b =>
      Declared.position (.edge a) (ds ++ [x]) < Declared.position (.edge b) (ds ++ [x]) := by
  have hposition (k : String) (hk : k ∈ keys) :
      Declared.position (.edge k) (ds ++ [x]) = ds.position (.edge k) :=
    Declared.position_concat_of_ne_nil ((h.mem_keys_iff k).1 (hkeys.subset hk)) (hx k hk)
  refine (h.order.sublist hkeys).imp_of_mem fun ha hb hlt => ?_
  rw [hposition _ ha, hposition _ hb]
  exact hlt

/-- Other declarations have nothing to do with edges. -/
theorem TracksEdges.concat (h : TracksEdges edges ds) (hx : x.2.edge? = none) :
    TracksEdges edges (ds ++ [x]) := by
  have hsince (key : String) : Declared.since (.edge key) (ds ++ [x]) = ds.since (.edge key) :=
    Declared.since_concat_of_ne (Declared.element_ne_edge hx key)
  refine ⟨?_, ?_, h.order_concat (List.Sublist.refl _) fun k _ hk =>
    Declared.element_ne_edge hx k hk.1⟩
  · simp only [hsince]
    exact h.none_iff
  · simp only [hsince]
    exact h.patch

/-- An edge that is taken away. -/
theorem TracksEdges.remove (h : TracksEdges edges ds) (layer : String) {p : EdgePatch}
    (hp : p.remove = true) :
    TracksEdges (edges.erase p.key) (ds ++ [(layer, .edge p)]) := by
  refine ⟨fun key => ?_, fun key => ?_, ?_⟩
  · rw [Table.get?_erase, Declared.since_concat_edge, if_pos hp]
    split
    · exact iff_of_true rfl rfl
    · exact h.none_iff key
  · rw [Table.get?_erase, Declared.since_concat_edge, if_pos hp]
    split
    · rfl
    · exact h.patch key
  · rw [Table.map_fst_erase]
    refine h.order_concat List.filter_sublist fun k hk hremoves => ?_
    cases hremoves.1
    simp at hk

/-- An edge that is declared, perhaps again. -/
theorem TracksEdges.overlay (h : TracksEdges edges ds) (layer : String) {p : EdgePatch}
    (hp : p.remove = false) (origins : Origins) :
    TracksEdges
      (edges.set p.key ⟨(edges.get? p.key).elim (newEdge p) fun h => h.patch.overlay p, origins⟩)
        (ds ++ [(layer, .edge p)]) := by
  have hsince (key : String) : Declared.since (.edge key) (ds ++ [(layer, .edge p)]) =
      if p.key = key then ds.since (.edge key) ++ [(layer, .edge p)] else ds.since (.edge key) := by
    rw [Declared.since_concat_edge, hp]
    rfl
  refine ⟨fun key => ?_, fun key => ?_, ?_⟩
  · rw [Table.get?_set, hsince]
    split
    · exact iff_of_false (Option.some_ne_none _) (by simp)
    · exact h.none_iff key
  · rw [Table.get?_set, hsince]
    split
    · rename_i hkey
      subst hkey
      rw [Declared.edgePatches_concat]
      show _ = EdgePatch.merged (_ ++ [p])
      rw [EdgePatch.merged_concat, ← h.patch]
      cases edges.get? p.key <;> rfl
    · exact h.patch key
  · have hstay :
        ∀ k, ¬ ((Declaration.edge p).element = .edge k ∧ (Declaration.edge p).removes = true) := by
      rintro k ⟨-, hremoves⟩
      rw [Declaration.removes, hp] at hremoves
      cases hremoves
    rw [Table.map_fst_set]
    split
    · exact h.order_concat (List.Sublist.refl _) fun k _ => hstay k
    · rename_i hnew
      have hnone : edges.get? p.key = none := by simpa using hnew
      have hlast : Declared.position (.edge p.key) (ds ++ [(layer, .edge p)]) = ds.length :=
        Declared.position_concat_of_eq_nil ((h.none_iff p.key).1 hnone) rfl hp
      refine List.pairwise_append.2
        ⟨h.order_concat (List.Sublist.refl _) fun k _ => hstay k, List.pairwise_singleton _ _, ?_⟩
      intro k hk k' hk'
      have hsince := (h.mem_keys_iff k).1 hk
      rw [List.mem_singleton.1 hk', hlast, Declared.position_concat_of_ne_nil hsince (hstay k)]
      exact Declared.position_lt hsince

end Edges

/-- What a draft knows of the declarations that it has taken in. -/
structure Tracks (d : Draft) (ds : Declared) : Prop where
  entry : d.entry.map Prod.snd = lastSet (fun d => d.2.entryId?) ds
  nodes : TracksNodes d.declared d.nodes d.removed ds
  edges : TracksEdges d.edges ds

variable {d : Draft}

/-- One more declaration. -/
theorem Tracks.declare (h : d.Tracks ds) (before : String) (x : String × Declaration) :
    (d.declare before x).Tracks (ds ++ [x]) := by
  obtain ⟨layer, id | p | p⟩ := x
  · refine ⟨?_, h.nodes.concat rfl, h.edges.concat rfl⟩
    rw [lastSet_concat]
    rfl
  · have hentry : d.entry.map Prod.snd =
        lastSet (fun d => d.2.entryId?) (ds ++ [(layer, .node p)]) := by
      rw [lastSet_concat, h.entry]
      rfl
    show (d.patchNode before layer p).Tracks _
    unfold patchNode
    split
    · rename_i hp
      exact ⟨hentry, h.nodes.remove layer hp, h.edges.concat rfl⟩
    · rename_i hp
      exact ⟨hentry, h.nodes.overlay layer (Bool.eq_false_iff.2 hp) _, h.edges.concat rfl⟩
  · have hentry : d.entry.map Prod.snd =
        lastSet (fun d => d.2.entryId?) (ds ++ [(layer, .edge p)]) := by
      rw [lastSet_concat, h.entry]
      rfl
    show (d.patchEdge before layer p).Tracks _
    unfold patchEdge
    split
    · rename_i hp
      exact ⟨hentry, h.nodes.concat rfl, h.edges.remove layer hp⟩
    · rename_i hp
      exact ⟨hentry, h.nodes.concat rfl, h.edges.overlay layer (Bool.eq_false_iff.2 hp) _⟩

/-- A draft knows of all its declarations. -/
theorem ofDeclarations_tracks (before : String) (ds : Declared) :
    (ofDeclarations before ds).Tracks ds := by
  induction ds using List.reverseRecOn with
  | nil => exact ⟨rfl, tracksNodes_nil, tracksEdges_nil⟩
  | append_singleton ds x ih =>
    rw [ofDeclarations, List.foldl_append]
    exact ih.declare before x

/-! ### Finished drafts -/

theorem byPriority_perm {α : Type} (priority : α → Option Int) (xs : List α) :
    (byPriority priority xs).Perm xs :=
  List.mergeSort_perm _ _

/-- The order by priority, in which the old order decides between elements of the same priority. -/
theorem pairwise_byPriority {α : Type} {R : α → α → Prop} (priority : α → Option Int) {xs : List α}
    (h : xs.Pairwise R) :
    (byPriority priority xs).Pairwise fun a b =>
      (priority b).getD 0 < (priority a).getD 0 ∨
          (priority a).getD 0 = (priority b).getD 0 ∧ R a b := by
  have htrans (a b c : α) (hab : decide ((priority b).getD 0 ≤ (priority a).getD 0) = true)
      (hbc : decide ((priority c).getD 0 ≤ (priority b).getD 0) = true) :
      decide ((priority c).getD 0 ≤ (priority a).getD 0) = true :=
    decide_eq_true ((of_decide_eq_true hbc).trans (of_decide_eq_true hab))
  have htotal (a b : α) : (decide ((priority b).getD 0 ≤ (priority a).getD 0) ||
      decide ((priority a).getD 0 ≤ (priority b).getD 0)) = true := by
    simpa using le_total _ _
  refine List.pairwise_iff_forall_sublist.2 fun {a b} hab => ?_
  have hle := of_decide_eq_true
    (List.pairwise_iff_forall_sublist.1 (List.pairwise_mergeSort htrans htotal xs) hab)
  rcases lt_or_eq_of_le hle with hlt | heq
  · exact .inl hlt
  · -- elements of this priority have kept their order
    have hstable := filter_mergeSort_of_forall htrans htotal
      (p := fun c => decide ((priority c).getD 0 = (priority a).getD 0)) (fun c d hc hd => by
        rw [of_decide_eq_true hc, of_decide_eq_true hd]
        exact decide_eq_true le_rfl) xs
    have hsub := hab.filter fun c => decide ((priority c).getD 0 = (priority a).getD 0)
    rw [List.filter_cons_of_pos (by simp), List.filter_cons_of_pos (by simp [heq]),
      List.filter_nil, byPriority, hstable] at hsub
    exact .inr ⟨heq.symm, List.pairwise_iff_forall_sublist.1 h (hsub.trans List.filter_sublist)⟩

theorem finishNode_eq_ok {before : String} {id : NodeId} {held : Held NodePatch} {n : Node}
    (h : finishNode before id held = .ok n) : held.patch.toNode? id = some n := by
  unfold finishNode at h
  split at h
  · cases h
    assumption
  · cases h

theorem finish_eq_ok {before : String} {f : Flow} (h : d.finish before = .ok f) :
    ∃ nodes, List.Forall₂ (fun e n => e.2.patch.toNode? e.1 = some n) d.nodes nodes ∧
      f.nodes = byPriority Node.priority nodes ∧ f.edges = d.finishEdges ∧
      f.entry =
        (d.entry.map Prod.snd).or (d.declared.find? fun id => f.nodes.any fun n => n.id = id) := by
  obtain ⟨nodes, hnodes, h⟩ := bind_eq_ok.1 h
  cases pure_eq_ok.1 h
  exact ⟨nodes, (mapM_eq_ok.1 hnodes).imp fun _ _ h => finishNode_eq_ok h, rfl, rfl, rfl⟩

theorem toNode?_id {p : NodePatch} {id : NodeId} {n : Node} (h : p.toNode? id = some n) :
    n.id = id := by
  obtain ⟨kind, -, rfl⟩ := Option.map_eq_some_iff.1 h
  rfl

/-- The nodes of a finished draft. -/
theorem TracksNodes.finish {declared : List NodeId} {entries : Dict (Held NodePatch)}
    {removed : List NodeId} (h : TracksNodes declared entries removed ds) {nodes : List Node}
    (hnodes : List.Forall₂ (fun e n => e.2.patch.toNode? e.1 = some n) entries nodes) :
    (∀ id, (∃ n ∈ nodes, n.id = id) ↔ ds.Stands (.node id)) ∧
      (∀ n ∈ nodes, Node.merged n.id (ds.since (.node n.id)).nodePatches = some n) ∧
      nodes.Pairwise fun a b => a.id < b.id := by
  have hids : entries.map Prod.fst = nodes.map Node.id :=
    map_eq_map_of_forall₂ (hnodes.imp fun _ _ h => (toNode?_id h).symm)
  refine ⟨fun id => ?_, fun n hn => ?_, ?_⟩
  · rw [Declared.stands_iff, ne_eq, ← h.none_iff id, ← ne_eq, ← Dict.mem_keys_iff, hids,
      List.mem_map]
  · obtain ⟨⟨id, held⟩, he, hn⟩ := exists_of_forall₂_right hnodes hn
    have hid := toNode?_id hn
    rw [h.patch id held (h.order.get?_of_mem he), NodePatch.toNode?_merged] at hn
    exact hid ▸ hn
  · rw [← List.pairwise_map, ← hids, List.pairwise_map]
    exact h.order

/-- The patches of an edge all bear its name. -/
theorem key_of_mem_edgePatches {key : String} {p : EdgePatch}
    (hp : p ∈ (ds.since (.edge key)).edgePatches) :
    p.key = key := by
  obtain ⟨⟨layer, d⟩, hd, hpatch⟩ := List.mem_filterMap.1 hp
  have habout := (List.rtakeWhile_suffix _ _).subset hd
  have helement := of_decide_eq_true (List.mem_filter.1 habout).2
  cases d with
  | edge q =>
    cases hpatch
    exact Element.edge.inj helement
  | entry id => cases hpatch
  | node q => cases hpatch

/-- An edge bears the name of its patches. -/
theorem key_of_merged {key : String} {ps : List EdgePatch} {e : Edge} (hps : ∀ p ∈ ps, p.key = key)
    (he : Edge.merged ps = some e) : e.key = key := by
  obtain ⟨last, hlast, rfl⟩ := Option.map_eq_some_iff.1 he
  unfold Edge.key
  cases hid : lastSet EdgePatch.id ps with
  | some id =>
    obtain ⟨p, hp, hpid⟩ := List.mem_filterMap.1 (List.mem_of_getLast? hid)
    rw [← hps p hp, EdgePatch.key, hpid]
    rfl
  | none =>
    have hmem := List.mem_of_getLast? hlast
    have hnone : last.id = none := by
      rw [lastSet, List.getLast?_eq_none_iff, List.filterMap_eq_nil_iff] at hid
      exact hid last hmem
    rw [← hps last hmem, EdgePatch.key, hnone]

/-- The last patch of an edge that stands is its last patch at all. -/
theorem getLast?_edgePatches_about {key : String} {p : EdgePatch}
    (hp : (ds.since (.edge key)).edgePatches.getLast? = some p) :
    (ds.about (.edge key)).edgePatches.getLast? = some p := by
  obtain ⟨past, hpast⟩ := List.rtakeWhile_suffix (fun d => !d.2.removes) (ds.about (.edge key))
  rw [← hpast, Declared.edgePatches, List.filterMap_append, List.getLast?_append]
  show ((ds.since (.edge key)).edgePatches.getLast?).or _ = _
  rw [hp, Option.some_or]

/-- The edges of a draft, without those at nodes that are taken away. -/
theorem TracksEdges.finish {entries : Table String (Held EdgePatch)} {removed : List NodeId}
    (h : TracksEdges entries ds) (hremoved : ∀ id, id ∈ removed ↔ ds.IsGone (.node id))
    {edges : List Edge}
    (hedges : edges = (entries.map fun e => e.2.patch.toEdge).filter fun e =>
      e.source ∉ removed && e.target ∉ removed) :
    (∀ key, (∃ e ∈ edges, e.key = key) ↔ ds.Stands (.edge key) ∧
      ∀ p ∈ (ds.about (.edge key)).edgePatches.getLast?, ¬ ds.IsGone (.node p.source) ∧
        ¬ ds.IsGone (.node p.target)) ∧
      (∀ e ∈ edges, Edge.merged (ds.since (.edge e.key)).edgePatches = some e) ∧
      edges.Pairwise fun a b => ds.position (.edge a.key) < ds.position (.edge b.key) := by
  have hmerged (key : String) (held : Held EdgePatch) (hentry : (key, held) ∈ entries) :
      Edge.merged (ds.since (.edge key)).edgePatches = some held.patch.toEdge := by
    rw [← EdgePatch.toEdge_merged, ← h.patch key, Table.get?_of_mem h.nodup hentry]
    rfl
  have hkey (key : String) (held : Held EdgePatch) (hentry : (key, held) ∈ entries) :
      held.patch.toEdge.key = key :=
    key_of_merged (fun p hp => key_of_mem_edgePatches hp) (hmerged key held hentry)
  -- what is known of an edge that is kept
  have hmem (e : Edge) : e ∈ edges ↔ ∃ key held, (key, held) ∈ entries ∧ e = held.patch.toEdge ∧
      ¬ ds.IsGone (.node e.source) ∧ ¬ ds.IsGone (.node e.target) := by
    rw [hedges, List.mem_filter, List.mem_map]
    simp only [Bool.and_eq_true, decide_eq_true_eq, hremoved]
    constructor
    · rintro ⟨⟨⟨key, held⟩, hentry, rfl⟩, hends⟩
      exact ⟨key, held, hentry, rfl, hends⟩
    · rintro ⟨key, held, hentry, rfl, hends⟩
      exact ⟨⟨(key, held), hentry, rfl⟩, hends⟩
  have hlast (key : String) (held : Held EdgePatch) (hentry : (key, held) ∈ entries) :
      ∃ last, (ds.about (.edge key)).edgePatches.getLast? = some last ∧
        held.patch.toEdge.source = last.source ∧ held.patch.toEdge.target = last.target := by
    obtain ⟨last, hlast, heq⟩ := Option.map_eq_some_iff.1 (hmerged key held hentry)
    exact ⟨last, getLast?_edgePatches_about hlast, heq ▸ rfl, heq ▸ rfl⟩
  refine ⟨fun key => ⟨?_, ?_⟩, ?_, ?_⟩
  · rintro ⟨e, he, rfl⟩
    obtain ⟨key, held, hentry, rfl, hsource, htarget⟩ := (hmem e).1 he
    rw [hkey key held hentry, Declared.stands_iff, ← h.mem_keys_iff]
    refine ⟨List.mem_map_of_mem hentry, fun p hp => ?_⟩
    obtain ⟨last, hlast, hs, ht⟩ := hlast key held hentry
    rw [hlast, Option.mem_some_iff] at hp
    rw [← hp, ← hs, ← ht]
    exact ⟨hsource, htarget⟩
  · rintro ⟨hstands, hends⟩
    rw [Declared.stands_iff, ← h.mem_keys_iff, List.mem_map] at hstands
    obtain ⟨⟨key, held⟩, hentry, rfl⟩ := hstands
    obtain ⟨last, hlast, hs, ht⟩ := hlast key held hentry
    refine ⟨held.patch.toEdge, (hmem _).2 ⟨key, held, hentry, rfl, ?_⟩, hkey key held hentry⟩
    rw [hs, ht]
    exact hends last hlast
  · intro e he
    obtain ⟨key, held, hentry, rfl, -⟩ := (hmem e).1 he
    rw [hkey key held hentry]
    exact hmerged key held hentry
  · rw [hedges]
    refine List.Pairwise.filter _
      (List.pairwise_map.2 ((List.pairwise_map.1 h.order).imp_of_mem ?_))
    rintro ⟨key, held⟩ ⟨key', held'⟩ hentry hentry' hlt
    rw [hkey key held hentry, hkey key' held' hentry']
    exact hlt

/-- A finished draft is the merge of its declarations. -/
theorem Tracks.finish (h : d.Tracks ds) {before : String} {f base : Flow}
    (hbase : d.finish before = .ok base) (hentry : f.entry = base.entry)
    (hnodes : f.nodes = base.nodes) (hedges : f.edges = base.edges) :
    f.IsMergeOf ds := by
  obtain ⟨nodes, hforall, hbyPriority, hfinishEdges, hbaseEntry⟩ := finish_eq_ok hbase
  obtain ⟨hnodeIff, hnode, hnodeOrder⟩ := h.nodes.finish hforall
  obtain ⟨hedgeIff, hedge, hedgeOrder⟩ := h.edges.finish h.nodes.removed rfl
  have hnodes := hnodes.trans hbyPriority
  have hedges := hedges.trans hfinishEdges
  have hmemNode (n : Node) : n ∈ f.nodes ↔ n ∈ nodes := by
    rw [hnodes]
    exact (byPriority_perm _ _).mem_iff
  have hmemEdge (e : Edge) : e ∈ f.edges ↔ e ∈ (d.edges.map fun e => e.2.patch.toEdge).filter
      fun e => e.source ∉ d.removed && e.target ∉ d.removed := by
    rw [hedges]
    exact (byPriority_perm _ _).mem_iff
  exact {
    node_iff := fun id => by simpa only [hmemNode] using hnodeIff id
    nodes := fun n hn => hnode n ((hmemNode n).1 hn)
    nodes_order := hnodes ▸ pairwise_byPriority _ hnodeOrder
    edge_iff := fun key => by simpa only [hmemEdge] using hedgeIff key
    edges := fun e he => hedge e ((hmemEdge e).1 he)
    edges_order := hedges ▸ pairwise_byPriority _ hedgeOrder
    entry := by rw [hentry, hbaseEntry, h.entry, h.nodes.find_declared, hnodes, hbyPriority] }

end Draft

/-- The `ui` object of a merged node is merged at any depth: each of its members is what the patches
of the node have set it to since it was last taken away, one value laid over the other. -/
theorem Flow.IsMergeOf.get?_ui {f : Flow} {ds : Declared} (h : f.IsMergeOf ds) {n : Node}
    (hn : n ∈ f.nodes) (hsorted : ∀ p ∈ (ds.since (.node n.id)).nodePatches, ∀ d, p.ui = some d →
      Dict.Ordered d) (key : String) :
    n.ui.bind (Dict.get? · key) =
      Json.overlayAll none
        ((ds.since (.node n.id)).nodePatches.filterMap fun p => p.ui.bind (Dict.get? · key)) := by
  obtain ⟨kind, -, hmerged⟩ := Option.map_eq_some_iff.1 (h.nodes n hn)
  have hui :
      n.ui = Json.mergeObjects ((ds.since (.node n.id)).nodePatches.filterMap NodePatch.ui) :=
    (congrArg Node.ui hmerged).symm
  rw [hui]
  refine (Json.get?_mergeObjects (fun d hd => ?_) key).trans
    (congrArg _ (List.filterMap_filterMap ..))
  obtain ⟨p, hp, hui⟩ := List.mem_filterMap.1 hd
  exact hsorted p hp d hui

/-- **Layers merge by precedence.**  The merged flow has a scope wherever a layer has one, and each
is what the declarations of the layers for it add up to. -/
theorem Layer.merge_isMergeOf {layers : List Layer} {m : Merged} (h : merge layers = .ok m)
    (path : List String) :
    ((∃ f, m.flow.descend? path = some f) ↔ HasScope layers path) ∧
      ∀ f, m.flow.descend? path = some f → f.IsMergeOf (declarationsAt layers path) := by
  rcases merge_descend h path with ⟨hscope, hnone⟩
    | ⟨hscope, before, f, base, hf, hbase, hentry, hnodes, hedges⟩
  · rw [hnone]
    exact ⟨iff_of_false nofun hscope, nofun⟩
  · rw [hf]
    refine ⟨iff_of_true ⟨f, rfl⟩ hscope, ?_⟩
    intro f' hf'
    cases hf'
    exact (Draft.ofDeclarations_tracks before _).finish hbase hentry hnodes hedges

/-- What the two layers of `Samples.houseRules` come to. -/
theorem Samples.houseFlow_isMergeOf :
    Layer.merge houseRules = .ok ⟨houseFlow, [houseConflict]⟩ ∧
      (∃ f, houseFlow.descend? [] = some f) ∧
      houseFlow.IsMergeOf (Layer.declarationsAt houseRules []) := by
  obtain ⟨hscope, hmerge⟩ := Layer.merge_isMergeOf merge_houseRules []
  exact ⟨merge_houseRules, hscope.2 (.inl rfl), hmerge houseFlow rfl⟩

end Parley

import Parley.Proofs.Layer.Absorbed
import Parley.Proofs.Layer.Rearranged

/-!
# A layer that is given twice

A layer on top of all others that mentions each node and each edge at most once in a scope says
nothing new when it is given again: what it has set is set, and what it has taken away is gone.

* `LayerGraph.MentionsOnce`, `LayerGraph.IsFinite`: which layers are meant;
* `Draft.Agrees`: drafts that become the same flow with the same conflicts;
* `Draft.Shows`, `Draft.shows_declare`, `Draft.Shows.declare`: a draft that shows what a declaration
  says;
* `Draft.ofDeclarations_again`: declarations that are taken in twice;
* `Overlay.resolve_again`: scope by scope;
* `Host.merge_reapplied`.
-/

namespace Parley

/-! ### Which layers are meant -/

namespace LayerGraph

/-- Each scope mentions every node and every edge at most once. -/
inductive MentionsOnce : LayerGraph → Prop
  | mk {g : LayerGraph} (nodes : (g.nodes.map NodePatch.id).Nodup)
      (edges : (g.edges.map EdgePatch.key).Nodup) (below : ∀ s ∈ g.subgraphs, s.2.MentionsOnce) :
      g.MentionsOnce

/-- No `ui` object has a number that is not finite. -/
inductive IsFinite : LayerGraph → Prop
  | mk {g : LayerGraph} (nodes : ∀ p ∈ g.nodes, ∀ ui ∈ p.ui, (Json.object ui).IsFinite)
      (below : ∀ s ∈ g.subgraphs, s.2.IsFinite) : g.IsFinite

/-- No two declarations of a scope are about the same element. -/
theorem MentionsOnce.nodup {g : LayerGraph} (h : g.MentionsOnce) :
    (g.declarations.map Declaration.element).Nodup := by
  obtain ⟨hnodes, hedges, -⟩ := h
  have hentry : (g.entry.toList.map Declaration.entry).map Declaration.element =
      g.entry.toList.map fun _ => .flow := by
    rw [List.map_map]
    rfl
  have hnode : (g.nodes.map Declaration.node).map Declaration.element =
      (g.nodes.map NodePatch.id).map .node := by
    rw [List.map_map, List.map_map]
    rfl
  have hedge : (g.edges.map Declaration.edge).map Declaration.element =
      (g.edges.map EdgePatch.key).map .edge := by
    rw [List.map_map, List.map_map]
    rfl
  rw [declarations, List.map_append, List.map_append, hentry, hnode, hedge]
  refine List.nodup_append'.2
    ⟨List.nodup_append'.2 ⟨?_, hnodes.map fun _ _ => Element.node.inj, ?_⟩,
      hedges.map fun _ _ => Element.edge.inj, ?_⟩
  · cases g.entry <;> simp
  · simp [List.Disjoint]
  · simp only [List.Disjoint, List.mem_append, List.mem_map]
    rintro e (⟨_, _, rfl⟩ | ⟨_, _, rfl⟩) ⟨_, _, he⟩ <;> cases he

end LayerGraph

/-- The `ui` object that a declaration sets is sorted, and has no number that is not finite. -/
structure Declaration.IsSound (x : Declaration) : Prop where
  sorted : ∀ ui ∈ x.ui?, (Json.object ui).IsSorted
  finite : ∀ ui ∈ x.ui?, (Json.object ui).IsFinite

theorem LayerGraph.isSound_of_mem_declarations {g : LayerGraph} (hfits : g.Fits)
    (hfinite : g.IsFinite) {x : Declaration} (hx : x ∈ g.declarations) : x.IsSound := by
  obtain ⟨hnodes, -, -, -⟩ := hfits
  obtain ⟨hfinite, -⟩ := hfinite
  cases x with
  | entry id => exact ⟨nofun, nofun⟩
  | edge p => exact ⟨nofun, nofun⟩
  | node p =>
    have hp : p ∈ g.nodes := by
      simpa [declarations] using hx
    exact ⟨(hnodes p hp).ui, hfinite p hp⟩

/-! ### What a draft shows -/

/-- What a draft shows of an element, whichever layers have set its fields. -/
inductive Sight
  | entry (id : Option NodeId)
  | node (patch : Option NodePatch) (declared removed : Bool)
  | edge (patch : Option EdgePatch)

/-- What shows of an element after one more declaration of it. -/
def Sight.after : Sight → Declaration → Sight
  | .entry _, .entry id => .entry (some id)
  | .node patch declared _, .node p =>
      if p.remove then .node none declared true else
        .node (some ((patch.getD { id := p.id }).overlay p)) true false
  | .edge patch, .edge p =>
      if p.remove then .edge none else .edge (some (patch.elim (Draft.newEdge p) (·.overlay p)))
  | s, _ => s

/-- A declaration says nothing new after itself. -/
theorem Sight.after_after {x : Declaration} (hx : x.IsSound) (s : Sight) :
    (s.after x).after x = s.after x := by
  cases x with
  | entry id => cases s <;> rfl
  | node p =>
    cases s with
    | node patch declared removed =>
      by_cases hp : p.remove = true
      · simp only [after, hp, if_true]
      · simp only [after, hp, Bool.false_eq_true, if_false, Option.getD_some,
          NodePatch.overlay_overlay hx.sorted]
    | entry _ | edge _ => rfl
  | edge p =>
    cases s with
    | edge patch =>
      by_cases hp : p.remove = true
      · simp only [after, hp, if_true]
      · have hagain : (patch.elim (Draft.newEdge p) (·.overlay p)).overlay p =
            patch.elim (Draft.newEdge p) (·.overlay p) := by
          cases patch with
          | none => exact p.newEdge_overlay
          | some lower => exact lower.overlay_overlay p
        simp only [after, hp, Bool.false_eq_true, if_false, Option.elim_some, hagain]
    | entry _ | node _ _ _ => rfl

namespace Draft

variable {before : String} {d d' d'' : Draft} {x y : String × Declaration}

def sight (d : Draft) : Element → Sight
  | .flow => .entry (d.entry.map Prod.snd)
  | .node id => .node ((d.nodes.get? id).map Held.patch) (id ∈ d.declared) (id ∈ d.removed)
  | .edge key => .edge ((d.edges.get? key).map Held.patch)

/-- A declaration shows on its element, and nowhere else. -/
theorem sight_declare (before : String) (d : Draft) (x : String × Declaration) (e : Element) :
    (d.declare before x).sight e =
      if x.2.element = e then (d.sight e).after x.2 else d.sight e := by
  obtain ⟨layer, id | p | p⟩ := x
  · cases e <;> rfl
  · show (d.patchNode before layer p).sight e = _
    unfold patchNode
    by_cases hp : p.remove = true
    · rw [if_pos hp]
      cases e with
      | node id =>
        by_cases hid : p.id = id
        · simp [sight, Declaration.element, Sight.after, hp, hid, Dict.get?_erase]
        · simp [sight, Declaration.element, hid, Ne.symm hid, Dict.get?_erase]
      | flow | edge _ => rfl
    · rw [if_neg hp]
      cases e with
      | node id =>
        by_cases hid : p.id = id
        · subst hid
          have hpatch : ((d.nodes.get? p.id).getD ⟨{ id := p.id }, []⟩).patch =
              ((d.nodes.get? p.id).map Held.patch).getD { id := p.id } := by
            cases d.nodes.get? p.id <;> rfl
          have hdeclared :
              p.id ∈ if p.id ∈ d.declared then d.declared else d.declared ++ [p.id] := by
            split <;> simp_all
          simp [sight, Declaration.element, Sight.after, hp, Dict.get?_insert, hpatch, hdeclared]
        · have hdeclared : (id ∈ if p.id ∈ d.declared then d.declared else d.declared ++ [p.id]) ↔
              id ∈ d.declared := by
            split <;> simp [Ne.symm hid]
          simp [sight, Declaration.element, hid, Ne.symm hid, Dict.get?_insert, hdeclared]
      | flow | edge _ => rfl
  · show (d.patchEdge before layer p).sight e = _
    unfold patchEdge
    by_cases hp : p.remove = true
    · rw [if_pos hp]
      cases e with
      | edge key =>
        by_cases hkey : p.key = key
        · simp [sight, Declaration.element, Sight.after, hp, hkey, Table.get?_erase]
        · simp [sight, Declaration.element, hkey, Table.get?_erase]
      | flow | node _ => rfl
    · rw [if_neg hp]
      cases e with
      | edge key =>
        by_cases hkey : p.key = key
        · subst hkey
          cases hget : d.edges.get? p.key <;>
            simp [sight, Declaration.element, Sight.after, hp, Table.get?_set, hget]
        · simp [sight, Declaration.element, hkey, Table.get?_set]
      | flow | node _ => rfl

/-- What a declaration says shows already. -/
def Shows (d : Draft) (x : String × Declaration) : Prop :=
  (d.sight x.2.element).after x.2 = d.sight x.2.element

/-- What was declared shows, also after declarations of other elements. -/
theorem shows_declare (hx : x.2.IsSound) (before : String) (d : Draft) :
    (d.declare before x).Shows x := by
  rw [Shows, sight_declare, if_pos rfl, Sight.after_after hx]

theorem Shows.declare (h : d.Shows x) (hy : x.2.element ≠ y.2.element) (before : String) :
    (d.declare before y).Shows x := by
  rw [Shows, sight_declare, if_neg hy.symm]
  exact h

/-- All of several declarations show if they are sound and no two of them are about the same
element. -/
theorem shows_foldl {xs : Declared} (hsound : ∀ x ∈ xs, x.2.IsSound)
    (hxs : (xs.map fun x => x.2.element).Nodup) (before : String) (d : Draft) :
    ∀ x ∈ xs, (xs.foldl (Draft.declare before) d).Shows x :=
  forall_foldl (fun x hx d => shows_declare (hsound x hx) before d)
    ((List.pairwise_map.1 hxs).imp fun hne _ h => h.declare hne before) d

/-! ### Drafts that agree -/

/-- Drafts that show the same of each element, with the same conflicts. -/
structure Agrees (d d' : Draft) : Prop where
  sight : ∀ e, d'.sight e = d.sight e
  declared : d'.declared = d.declared
  edges : d'.edges.map Prod.fst = d.edges.map Prod.fst
  conflicts : d'.conflicts = d.conflicts

theorem Agrees.refl (d : Draft) : d.Agrees d := ⟨fun _ => rfl, rfl, rfl, rfl⟩

theorem Agrees.trans (h : d.Agrees d') (h' : d'.Agrees d'') : d.Agrees d'' where
  sight e := (h'.sight e).trans (h.sight e)
  declared := h'.declared.trans h.declared
  edges := h'.edges.trans h.edges
  conflicts := h'.conflicts.trans h.conflicts

theorem Agrees.shows (h : d.Agrees d') (hx : d.Shows x) : d'.Shows x := by
  rw [Shows, h.sight]
  exact hx

/-- No conflict arises from an entry that is set already. -/
theorem Shows.setEntry {layer : String} {id : NodeId} (h : d.Shows (layer, .entry id))
    (before : String) :
    (d.setEntry before layer id).conflicts = d.conflicts := by
  have hentry : d.entry.map Prod.snd = some id := (Sight.entry.inj h).symm
  obtain ⟨⟨loser, lost⟩, hentry, hid⟩ := Option.map_eq_some_iff.1 hentry
  unfold Draft.setEntry
  rw [hentry]
  show d.conflicts ++ (if lost = id then [] else _) = _
  rw [if_pos hid, List.append_nil]

/-- A patch of a node that shows already puts nothing in order of declaration, and gives rise to no
conflict. -/
theorem Shows.patchNode {layer : String} {p : NodePatch} (hp : (Declaration.node p).IsSound)
    (h : d.Shows (layer, .node p)) (before : String) :
    (d.patchNode before layer p).declared = d.declared ∧
    (d.patchNode before layer p).conflicts = d.conflicts := by
  unfold Draft.patchNode
  by_cases hremove : p.remove = true
  · rw [if_pos hremove]
    exact ⟨rfl, rfl⟩
  · rw [if_neg hremove]
    obtain ⟨hpatch, hdeclared, -⟩ :
        some ((((d.nodes.get? p.id).map Held.patch).getD { id := p.id }).overlay p) =
        (d.nodes.get? p.id).map Held.patch ∧ true = decide (p.id ∈ d.declared) ∧ _ := by
      simpa only [Shows, sight, Declaration.element, Sight.after, hremove,
        Bool.false_eq_true, if_false, Sight.node.injEq] using h
    obtain ⟨held, hget, hoverlay⟩ := Option.map_eq_some_iff.1 hpatch.symm
    rw [hget, Option.map_some, Option.getD_some] at hoverlay
    refine ⟨if_pos (of_decide_eq_true hdeclared.symm), ?_⟩
    rw [hget]
    exact NodePatch.settings_conflicts hp.sorted hp.finite hoverlay.symm _ _

/-- A patch of an edge that shows already puts no edge in or away, and gives rise to no conflict. -/
theorem Shows.patchEdge {layer : String} {p : EdgePatch} (h : d.Shows (layer, .edge p))
    (before : String) :
    (d.patchEdge before layer p).edges.map Prod.fst = d.edges.map Prod.fst ∧
      (d.patchEdge before layer p).conflicts = d.conflicts := by
  unfold Draft.patchEdge
  by_cases hremove : p.remove = true
  · rw [if_pos hremove]
    have hpatch : none = (d.edges.get? p.key).map Held.patch := by
      simpa only [Shows, sight, Declaration.element, Sight.after, hremove, if_true,
        Sight.edge.injEq] using h
    refine ⟨?_, rfl⟩
    rw [Table.map_fst_erase]
    refine List.filter_eq_self.2 fun key hkey => decide_eq_true ?_
    rintro rfl
    rw [Table.mem_keys_iff, Option.map_eq_none_iff.1 hpatch.symm] at hkey
    cases hkey
  · rw [if_neg hremove]
    have hpatch : some (((d.edges.get? p.key).map Held.patch).elim (newEdge p) (·.overlay p)) =
        (d.edges.get? p.key).map Held.patch := by
      simpa only [Shows, sight, Declaration.element, Sight.after, hremove,
        Bool.false_eq_true, if_false, Sight.edge.injEq] using h
    obtain ⟨held, hget, hoverlay⟩ := Option.map_eq_some_iff.1 hpatch.symm
    rw [hget, Option.map_some, Option.elim_some] at hoverlay
    refine ⟨?_, ?_⟩
    · rw [Table.map_fst_set, hget]
      rfl
    · rw [hget]
      exact EdgePatch.settings_conflicts hoverlay.symm _ _

/-- **A declaration that shows already changes nothing.** -/
theorem Shows.agrees (hx : x.2.IsSound) (h : d.Shows x) (before : String) :
    d.Agrees (d.declare before x) := by
  have hsight (e : Element) : (d.declare before x).sight e = d.sight e := by
    rw [sight_declare]
    split
    · rename_i he
      rw [← he]
      exact h
    · rfl
  obtain ⟨layer, id | p | p⟩ := x
  · exact ⟨hsight, rfl, rfl, h.setEntry before⟩
  · obtain ⟨hdeclared, hconflicts⟩ := h.patchNode hx before
    refine ⟨hsight, hdeclared, ?_, hconflicts⟩
    show (d.patchNode before layer p).edges.map Prod.fst = _
    unfold Draft.patchNode
    split <;> rfl
  · obtain ⟨hedges, hconflicts⟩ := h.patchEdge before
    refine ⟨hsight, ?_, hedges, hconflicts⟩
    show (d.patchEdge before layer p).declared = _
    unfold Draft.patchEdge
    split <;> rfl

theorem agrees_foldl {xs : Declared} (hsound : ∀ x ∈ xs, x.2.IsSound) (hshows : ∀ x ∈ xs, d.Shows x)
    (before : String) :
    d.Agrees (xs.foldl (Draft.declare before) d) :=
  List.foldlRecOn xs (Draft.declare before) (.refl d) fun _ hd' x hx =>
    hd'.trans ((hd'.shows (hshows x hx)).agrees (hsound x hx) before)

/-- Drafts that agree become the same flow. -/
theorem Agrees.finish {ds ds' : Declared} (h : d.Agrees d') (hd : d.Tracks ds) (hd' : d'.Tracks ds')
    (before : String) :
    d'.finish before = d.finish before := by
  have hnodes : d'.nodes.mapValues Held.patch = d.nodes.mapValues Held.patch := by
    refine (hd'.nodes.order.mapValues _).ext (hd.nodes.order.mapValues _) fun id => ?_
    rw [Dict.get?_mapValues, Dict.get?_mapValues]
    exact (Sight.node.inj (h.sight (.node id))).1
  have hremoved (id : NodeId) : id ∈ d'.removed ↔ id ∈ d.removed :=
    decide_eq_decide.1 (Sight.node.inj (h.sight (.node id))).2.2
  -- the layers that have written a node say nothing about the node itself
  have hmapM (d : Draft) : (d.nodes.mapM fun e => finishNode before e.1 e.2) =
      (d.nodes.mapValues Held.patch).mapM fun e => finishNode before e.1 ⟨e.2, []⟩ := by
    rw [Dict.mapValues, List.mapM_map]
    rfl
  have hedges : (d'.edges.map fun e => e.2.patch.toEdge) = d.edges.map fun e =>
      e.2.patch.toEdge := by
    refine Table.map_eq_map_of_get? (f := fun held => held.patch.toEdge) h.edges hd.edges.nodup
      fun key => ?_
    have hpatch := congrArg (Option.map EdgePatch.toEdge) (Sight.edge.inj (h.sight (.edge key)))
    rwa [Option.map_map, Option.map_map] at hpatch
  have hfinishEdges : d'.finishEdges = d.finishEdges := by
    unfold finishEdges
    rw [hedges]
    simp only [hremoved]
  unfold Draft.finish
  change (d'.nodes.mapM fun e => finishNode before e.1 e.2) >>= _ =
    (d.nodes.mapM fun e => finishNode before e.1 e.2) >>= _
  rw [hmapM, hmapM, hnodes, hfinishEdges, Sight.entry.inj (h.sight .flow), h.declared]

/-- **Declarations that are taken in twice in a row say nothing new the second time.** -/
theorem ofDeclarations_again {xs : Declared} (hsound : ∀ x ∈ xs, x.2.IsSound)
    (hxs : (xs.map fun x => x.2.element).Nodup) (before : String) (ds : Declared) :
    (ofDeclarations before (ds ++ xs ++ xs)).finish before =
      (ofDeclarations before (ds ++ xs)).finish before ∧
      (ofDeclarations before (ds ++ xs ++ xs)).conflicts =
        (ofDeclarations before (ds ++ xs)).conflicts := by
  have hshows : ∀ x ∈ xs, (ofDeclarations before (ds ++ xs)).Shows x := by
    rw [ofDeclarations, List.foldl_append]
    exact shows_foldl hsound hxs before _
  have hagrees : (ofDeclarations before (ds ++ xs)).Agrees
      (ofDeclarations before (ds ++ xs ++ xs)) := by
    have h := agrees_foldl hsound hshows before
    unfold ofDeclarations at h ⊢
    rwa [← List.foldl_append] at h
  exact ⟨hagrees.finish (ofDeclarations_tracks before _) (ofDeclarations_tracks before _) before,
    hagrees.conflicts⟩

end Draft

/-! ### Scopes -/

namespace Overlay

variable {layer before : String} {o o' : Overlay}

theorem stack_eq (layer : String) (g : LayerGraph) (o : Overlay) :
    stack layer g o =
      ⟨o.declarations ++ g.declarations.map (layer, ·),
        stackSubgraphs layer g.subgraphs o.subgraphs⟩ := by
  obtain ⟨entry, nodes, edges, subgraphs⟩ := g
  rw [stack]
  rfl

theorem resolve_congr {ds ds' : Declared} {subs subs' : List (String × Overlay)}
    (hfinish : (Draft.ofDeclarations before ds').finish before =
      (Draft.ofDeclarations before ds).finish before)
    (hconflicts : (Draft.ofDeclarations before ds').conflicts =
      (Draft.ofDeclarations before ds).conflicts)
    (hsubgraphs : resolveSubgraphs before subs' = resolveSubgraphs before subs) :
    resolve before ⟨ds', subs'⟩ = resolve before ⟨ds, subs⟩ := by
  unfold resolve
  dsimp only
  rw [hfinish, hconflicts, hsubgraphs]

theorem resolveSubgraphs_congr {subs subs' : List (String × Overlay)}
    (h : Dict.mapValues subs' (fun o before => o.resolve before) =
      Dict.mapValues subs fun o before => o.resolve before)
    (before : String) : resolveSubgraphs before subs' = resolveSubgraphs before subs := by
  induction subs generalizing subs' with
  | nil => rw [List.map_eq_nil_iff.1 h]
  | cons s subs ih =>
    obtain ⟨⟨name, o⟩, subs', rfl, hs, hsubs⟩ := List.map_eq_cons_iff.1 h
    obtain ⟨name', o'⟩ := s
    obtain ⟨rfl, ho⟩ := Prod.mk.inj hs
    have hresolve (before : String) : o.resolve before = o'.resolve before := congrFun ho before
    rw [resolveSubgraphs, resolveSubgraphs, ih hsubs, hresolve]

/-- What is found under a name when the subgraphs of a layer are put on top. -/
theorem get?_stackSubgraphs_of_ordered {subgraphs : List (String × LayerGraph)}
    (hnames : Dict.Ordered subgraphs) (layer : String) (below : List (String × Overlay))
    (name : String) :
    Dict.get? (stackSubgraphs layer subgraphs below) name =
      (Dict.get? subgraphs name).elim (Dict.get? below name) fun g =>
        some (stack layer g ((Dict.get? below name).getD {})) := by
  rw [get?_stackSubgraphs, hnames.filter_key]
  cases Dict.get? subgraphs name <;> rfl

/-- **What a layer says twice in a row, it could say once.** -/
theorem resolve_again {g : LayerGraph} (hfits : g.Fits) (hfinite : g.IsFinite)
    (honce : g.MentionsOnce) (layer : String) (ho : o.IsOrdered) (before : String) :
    (stack layer g (stack layer g o)).resolve before = (stack layer g o).resolve before := by
  induction hfits generalizing o before with
  | @mk g nodes edges names below ih =>
    have hsound : ∀ x ∈ g.declarations.map (layer, ·), x.2.IsSound :=
      List.forall_mem_map.2 fun x hx => LayerGraph.isSound_of_mem_declarations
        (.mk nodes edges names below) hfinite hx
    have helements : ((g.declarations.map (layer, ·)).map fun x => x.2.element).Nodup := by
      rw [List.map_map]
      exact honce.nodup
    obtain ⟨hfinish, hconflicts⟩ :=
      Draft.ofDeclarations_again hsound helements before o.declarations
    obtain ⟨-, hfiniteBelow⟩ := hfinite
    obtain ⟨-, -, honceBelow⟩ := honce
    have hordered : (stack layer g o).IsOrdered := stack_isOrdered layer g ho
    have hordered' : (stack layer g (stack layer g o)).IsOrdered := stack_isOrdered layer g hordered
    rw [stack_eq, stack_eq] at hordered' ⊢
    rw [stack_eq] at hordered
    refine resolve_congr hfinish hconflicts (resolveSubgraphs_congr ?_ before)
    refine (hordered'.names.mapValues _).ext (hordered.names.mapValues _) fun name => ?_
    rw [Dict.get?_mapValues, Dict.get?_mapValues, get?_stackSubgraphs_of_ordered names,
      get?_stackSubgraphs_of_ordered names]
    cases hget : Dict.get? g.subgraphs name with
    | none => rfl
    | some g' =>
      have hg' := Dict.mem_of_get? hget
      exact congrArg some (funext fun before =>
        ih (name, g') hg' (hfiniteBelow _ hg') (honceBelow _ hg')
          (getD_isOrdered ho.subgraphs name) before)

end Overlay

namespace Layer

/-- A layer whose numbers are finite. -/
def IsFinite (l : Layer) : Prop := l.graph.IsFinite

/-- A layer that mentions every node and every edge of a scope at most once. -/
def MentionsOnce (l : Layer) : Prop := l.graph.MentionsOnce

theorem merge_again {layers : List Layer} {l : Layer}
    (htop : ∀ a ∈ layers, a.tier.rank ≤ l.tier.rank) (hfits : l.Fits) (hfinite : l.IsFinite)
    (honce : l.MentionsOnce) :
    merge (layers ++ [l, l]) = merge (layers ++ [l]) := by
  have hone : inOrder (layers ++ [l]) = inOrder layers ++ [l] :=
    inOrder_append (List.pairwise_singleton _ _) fun a ha b hb =>
      List.mem_singleton.1 hb ▸ htop a ha
  have htwo : inOrder (layers ++ [l, l]) = inOrder layers ++ [l, l] := by
    refine inOrder_append (by simp) fun a ha b hb => ?_
    obtain rfl : b = l := by simpa using hb
    exact htop a ha
  have hid : flowId (inOrder layers ++ [l, l]) = flowId (inOrder layers ++ [l]) := by
    simp only [flowId, List.reverse_append, List.reverse_cons, List.reverse_nil, List.nil_append,
      List.cons_append, List.findSome?_cons]
    cases l.id <;> rfl
  have hresolve : (Overlay.ofLayers (inOrder layers ++ [l, l])).resolve "" =
      (Overlay.ofLayers (inOrder layers ++ [l])).resolve "" := by
    unfold Overlay.ofLayers
    rw [List.foldl_append, List.foldl_append]
    exact Overlay.resolve_again hfits hfinite honce l.name
      (Overlay.ofLayers_isOrdered (inOrder layers)) ""
  unfold merge
  dsimp only
  rw [hone, htwo, hid, hresolve]

end Layer

/-- **A layer on top may be given twice.**  If a layer of a tier not below the others mentions every
node and every edge of a scope at most once, then giving it once more makes the same flow with the
same conflicts, or fails with the same error. -/
theorem Host.merge_reapplied {layers : List Layer} {l : Layer}
    (htop : ∀ a ∈ layers, a.tier.rank ≤ l.tier.rank) (hfits : l.Fits) (hfinite : l.IsFinite)
    (honce : l.MentionsOnce) (host : Host) :
    host.merge (layers ++ [l, l]) = host.merge (layers ++ [l]) := by
  rw [merge, merge, Layer.merge_again htop hfits hfinite honce]

namespace Samples

/-- A tenant's layer for the night: a question is painted, the greeting is taken away, an edge comes
first, and there is a subgraph. -/
def nightly : Layer where
  tier := .tenant
  label := some "nightly"
  graph := {
    nodes := [
      { id := "ask", prompt := some "Still awake?", ui :=
        some [("style", .object [("color", .string "blue")])] },
      { id := "greet", remove := true }]
    edges := [{ source := "ask", target := "end", priority := some 1 }]
    subgraphs := [("lights", { nodes := [{ id := "off", kind := some .terminal }] })] }

theorem nightly_reapplied :
    (∀ a ∈ houseRules, a.tier.rank ≤ nightly.tier.rank) ∧ nightly.Fits ∧ nightly.IsFinite ∧
      nightly.MentionsOnce ∧
      Host.builtin.merge (houseRules ++ [nightly, nightly]) =
        Host.builtin.merge (houseRules ++ [nightly]) := by
  have htop : ∀ a ∈ houseRules, a.tier.rank ≤ nightly.tier.rank := by decide
  have hlights : ∀ s ∈ nightly.graph.subgraphs,
      s = ("lights", { nodes := [{ id := "off", kind := some .terminal }] }) :=
    fun s hs => List.mem_singleton.1 hs
  have hfits : nightly.Fits := by
    refine .mk ?_ (List.forall_mem_singleton.2 ?_) (List.pairwise_singleton _ _) fun s hs => ?_
    · exact List.forall_mem_cons.2 ⟨⟨nofun, fun _ hui => Option.some.inj hui ▸ rfl⟩,
        List.forall_mem_singleton.2 (patch_fits rfl rfl)⟩
    · exact fun i hi => Option.some.inj hi ▸ (by decide : _ ∧ _)
    · exact hlights s hs ▸ .mk (List.forall_mem_singleton.2 (patch_fits rfl rfl)) nofun .nil nofun
  have hfinite : nightly.IsFinite := by
    refine .mk (List.forall_mem_cons.2
      ⟨fun _ hui => Option.some.inj hui ▸ nofun, List.forall_mem_singleton.2 nofun⟩)
      fun s hs => ?_
    exact hlights s hs ▸ .mk (List.forall_mem_singleton.2 nofun) nofun
  have honce : nightly.MentionsOnce :=
    .mk (by decide) (by decide) fun s hs => hlights s hs ▸ .mk (by decide) (by decide) nofun
  exact ⟨htop, hfits, hfinite, honce, Host.merge_reapplied htop hfits hfinite honce .builtin⟩

end Samples

end Parley

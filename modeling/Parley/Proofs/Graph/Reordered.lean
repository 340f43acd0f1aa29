import Parley.Proofs.Graph.WellFormed

/-!
# Nodes in another order

The order of nodes matters to a scope in one way only: without an entry of its own, the scope is
entered at the first.  A flow still compiles when the nodes of its scopes change places and the
entries stay.

* `Flow.IsReorderedAt`: one scope;
* `Flow.IsReordered`: a flow with all its scopes;
* `Flow.IsReorderedAt.isWellFormedAt`, `Flow.IsReordered.calls`;
* `Host.compile_reordered`.
-/

namespace Parley

open Relation (TransGen)

namespace Flow

/-- A scope as another one, but for the order of its nodes. -/
structure IsReorderedAt (d d' : Flow) : Prop where
  entry : d'.entryNode? = d.entryNode?
  nodes : d'.nodes.Perm d.nodes
  edges : d'.edges = d.edges
  names : Dict.keys d'.subgraphs = Dict.keys d.subgraphs

/-- A flow with the same scopes as another one, but for the order of their nodes. -/
def IsReordered (f f' : Flow) : Prop :=
  List.Forall₂ (fun p p' => p'.1 = p.1 ∧ p.2.IsReorderedAt p'.2) f.scopes f'.scopes

variable {host : Host} {known : List ScopeId} {scope : ScopeId} {d d' f f' : Flow}

/-- A scope is entered at one of its nodes. -/
theorem IsRegular.entryNode?_mem (h : d.IsRegular host known scope) {id : NodeId}
    (hid : d.entryNode? = some id) :
    id ∈ d.nodes.map Node.id := by
  rcases Option.or_eq_some_iff.1 hid with hentry | ⟨-, hfirst⟩
  · exact h.entry id hentry
  · obtain ⟨n, hn, rfl⟩ := Option.map_eq_some_iff.1 hfirst
    exact List.mem_map_of_mem (List.mem_of_head? hn)

namespace IsReorderedAt

theorem isRegular (h : d.IsReorderedAt d') (hd : d.IsRegular host known scope) :
    d'.IsRegular host known scope := by
  have hids : (d'.nodes.map Node.id).Perm (d.nodes.map Node.id) := h.nodes.map Node.id
  have hedge (e : Edge) : e.IsWellFormed host scope (d.nodes.map Node.id) →
      e.IsWellFormed host scope (d'.nodes.map Node.id) := fun he =>
    { source := hids.mem_iff.2 he.source
      invalid := fun hinvalid => hids.mem_iff.2 (he.invalid hinvalid)
      target := fun hvalid => (he.target hvalid).imp_left hids.mem_iff.2
      guard := he.guard }
  refine ⟨fun hnil => hd.nodes_ne ?_, ?_, fun n hn => hd.nodes n (h.nodes.mem_iff.1 hn),
    hids.nodup_iff.2 hd.ids, (h.nodes.filterMap Node.key).nodup_iff.2 hd.keys,
      fun id hid => ?_, ?_, ?_⟩
  · exact (hnil ▸ h.nodes).nil_eq.symm
  · rw [h.names]
    exact hd.names
  · refine hids.mem_iff.2 (hd.entryNode?_mem ?_)
    rw [← h.entry, entryNode?, hid, Option.some_or]
  · rw [h.edges]
    exact fun e he => hedge e (hd.edges e he)
  · rw [h.edges]
    exact hd.apart

theorem follows (h : d.IsReorderedAt d') {a b : NodeId} (hab : d'.Follows a b) : d.Follows a b := by
  obtain ⟨e, he, hvalid, hreentrant, hsource, htarget, n, hn, hid, hplain⟩ := hab
  exact ⟨e, h.edges ▸ he, hvalid, hreentrant, hsource, htarget, n, h.nodes.mem_iff.1 hn,
    hid, hplain⟩

/-- A scope in another order is as well formed. -/
theorem isWellFormedAt (h : d.IsReorderedAt d') (hd : d.IsWellFormedAt host known scope) :
    d'.IsWellFormedAt host known scope where
  toIsRegular := h.isRegular hd.toIsRegular
  acyclic id hcircle := hd.acyclic id (TransGen.mono (fun _ _ => h.follows) _ _ hcircle)
  onward n hn hfinal := by
    rw [h.edges]
    exact hd.onward n (h.nodes.mem_iff.1 hn) hfinal

end IsReorderedAt

namespace IsReordered

theorem scopeIds_eq (h : f.IsReordered f') : f'.scopeIds = f.scopeIds :=
  map_eq_map_of_forall₂ (h.flip.imp fun _ _ hp => hp.1)

/-- The scopes at an address correspond. -/
theorem get? (h : f.IsReordered f') (s : ScopeId) :
    Option.Rel IsReorderedAt (Table.get? f.scopes s) (Table.get? f'.scopes s) := by
  unfold IsReordered at h
  generalize f.scopes = scopes, f'.scopes = scopes' at h ⊢
  induction h with
  | nil => exact .none
  | @cons p p' _ _ hp _ ih =>
    obtain ⟨s', d⟩ := p
    obtain ⟨_, d'⟩ := p'
    obtain ⟨rfl, hd⟩ := hp
    unfold Table.get?
    split
    · exact .some hd
    · exact ih

/-- The nodes enter the same scopes. -/
theorem calls (h : f.IsReordered f') {s t : ScopeId} (hst : f'.Calls s t) : f.Calls s t := by
  obtain ⟨d', hd', n, hn, hplain, name, hname, hmeans⟩ := hst
  have hget := h.get? s
  rw [hd'] at hget
  generalize hd : Table.get? f.scopes s = o at hget
  cases hget with
  | some hreordered =>
    exact ⟨_, hd, n, hreordered.nodes.mem_iff.1 hn, hplain, name, hname, h.scopeIds_eq ▸ hmeans⟩

end IsReordered

end Flow

variable {host : Host} {f f' : Flow} {g : Graph}

/-- The scopes of a flow that compiles are well formed. -/
theorem Host.compile_isWellFormedAt (hg : host.compile f = .ok g) :
    ∀ p ∈ f.scopes, p.2.IsWellFormedAt host f.scopeIds p.1 := by
  intro p hp
  obtain ⟨-, -, hareas⟩ := Host.compile_eq_ok hg
  obtain ⟨a, ha, hpa⟩ := exists_of_forall₂_right hareas.flip hp
  exact (isWellFormedAt_iff hpa).2 ((Host.compile_checks hg).2 a ha)

/-- **A flow compiles in any order of its nodes.** -/
theorem Host.compile_reordered (h : f.IsReordered f') (hid : f'.id = f.id)
    (hg : host.compile f = .ok g) :
    ∃ g', host.compile f' = .ok g' := by
  have hblank : Text.isBlankText f'.id = false := by
    unfold Host.compile at hg
    simpa [hid] using (ite_throw_eq_ok.1 hg).1
  have hscopes : ∀ p ∈ f'.scopes, p.2.IsWellFormedAt host f'.scopeIds p.1 := by
    intro p' hp'
    obtain ⟨p, hp, hs, hreordered⟩ := exists_of_forall₂_right h hp'
    rw [h.scopeIds_eq, hs]
    exact hreordered.isWellFormedAt (Host.compile_isWellFormedAt hg p hp)
  obtain ⟨areas, hmap⟩ : ∃ areas, f'.scopes.mapM (fun p => compileArea host f'.scopeIds p.1 p.2) =
      .ok areas :=
    exists_mapM_iff.2 fun p hp => exists_compileArea_iff.2 (hscopes p hp).toIsRegular
  have hareas := mapM_eq_ok.1 hmap
  have hrecursion : checkRecursion areas = .ok () := by
    obtain ⟨-, -, hareas₀⟩ := Host.compile_eq_ok hg
    have hacyclic := (checkRecursion_eq_ok_iff hareas₀).1 (Host.compile_checks hg).1
    exact (checkRecursion_eq_ok_iff hareas).2 fun s hcircle =>
      hacyclic s (TransGen.mono (fun _ _ => h.calls) _ _ hcircle)
  have hchecks : areas.forM (fun a => do checkCycles a; checkDeadEnds a) = .ok () := by
    refine forM_eq_ok.2 fun a ha => ?_
    obtain ⟨p, hp, hpa⟩ := exists_of_forall₂_right hareas ha
    obtain ⟨hcycles, hends⟩ := (isWellFormedAt_iff hpa).1 (hscopes p hp)
    exact bind_eq_ok.2 ⟨(), hcycles, hends⟩
  exact ⟨⟨f', areas, areas.flatMap Area.warnings, host.predicates⟩,
    Host.compile_of_passes rfl rfl hblank hmap hrecursion hchecks rfl⟩

end Parley

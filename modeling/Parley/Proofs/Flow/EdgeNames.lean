import Parley.Proofs.Edit.Basic
import Parley.Proofs.Layer.Complete
import Parley.Proofs.Layer.Precedence

/-!
# Names of edges

The name of an edge is its id, or its ends.  No scope of a merged flow has two edges of the same
name, and no edit brings a second one of a name that is there already.

* `Flow.forall_scopes_iff`: properties of all scopes;
* `Flow.HasDistinctEdges`: edges that can be told apart by their names;
* `Layer.merge_hasDistinctEdges`, `Flow.edit_hasDistinctEdges`.
-/

namespace Parley

namespace Flow

/-! ### Properties of all scopes -/

mutual

/-- The scopes of a flow do not depend on where it stands. -/
theorem scopesAt_map_snd :
    ∀ (f : Flow) (a b : ScopeId), (f.scopesAt a).map Prod.snd = (f.scopesAt b).map Prod.snd
  | ⟨_, _, _, _, _, subgraphs, _⟩, a, b => by
      rw [scopesAt, scopesAt, List.map_cons, List.map_cons, subgraphScopes_map_snd subgraphs a b]

theorem subgraphScopes_map_snd : ∀ (subgraphs : List (String × Flow)) (a b : ScopeId),
    (subgraphScopes a subgraphs).map Prod.snd = (subgraphScopes b subgraphs).map Prod.snd
  | [], _, _ => rfl
  | (name, f) :: r, a, b => by
      rw [subgraphScopes, subgraphScopes, List.map_append, List.map_append,
        scopesAt_map_snd f (a.child name) (b.child name), subgraphScopes_map_snd r a b]

end

variable {P : Flow → Prop} {f f' : Flow}

theorem forall_subgraphScopes_iff (at_ : ScopeId) (subgraphs : List (String × Flow)) :
    (∀ p ∈ subgraphScopes at_ subgraphs, P p.2) ↔ ∀ s ∈ subgraphs, ∀ p ∈ s.2.scopes, P p.2 := by
  induction subgraphs with
  | nil => simp [subgraphScopes]
  | cons s r ih =>
    obtain ⟨name, f⟩ := s
    have hscopes : (∀ p ∈ f.scopesAt (at_.child name), P p.2) ↔ ∀ p ∈ f.scopes, P p.2 := by
      rw [← List.forall_mem_map (f := Prod.snd) (P := P), scopesAt_map_snd f _ .root,
        List.forall_mem_map, scopes]
    rw [subgraphScopes, List.forall_mem_append, ih, hscopes, List.forall_mem_cons]

/-- All scopes are the root and those of the subgraphs. -/
theorem forall_scopes_iff :
    (∀ p ∈ f.scopes, P p.2) ↔ P f ∧ ∀ s ∈ f.subgraphs, ∀ p ∈ s.2.scopes, P p.2 := by
  rw [scopes, scopesAt_eq, List.forall_mem_cons, forall_subgraphScopes_iff]

/-! ### Edges that can be told apart -/

/-- In each scope of the flow, the edges have different names. -/
def HasDistinctEdges (f : Flow) : Prop := ∀ p ∈ f.scopes, (p.2.edges.map Edge.key).Nodup

instance (f : Flow) : Decidable f.HasDistinctEdges :=
  inferInstanceAs (Decidable (∀ p ∈ f.scopes, (p.2.edges.map Edge.key).Nodup))

theorem hasDistinctEdges_iff :
    f.HasDistinctEdges ↔ (f.edges.map Edge.key).Nodup ∧ ∀ s ∈ f.subgraphs, s.2.HasDistinctEdges :=
  forall_scopes_iff (P := fun f => (f.edges.map Edge.key).Nodup)

namespace HasDistinctEdges

/-- Only edges and subgraphs matter. -/
theorem congr (hedges : f'.edges = f.edges) (hsubgraphs : f'.subgraphs = f.subgraphs) :
    f'.HasDistinctEdges ↔ f.HasDistinctEdges := by
  rw [hasDistinctEdges_iff, hasDistinctEdges_iff, hedges, hsubgraphs]

theorem descend (hf : f.HasDistinctEdges) {names : List String} (h : f.descend? names = some f') :
    f'.HasDistinctEdges := by
  induction names generalizing f with
  | nil =>
    cases h
    exact hf
  | cons name r ih =>
    obtain ⟨sub, hsub, h⟩ := Option.bind_eq_some_iff.1 h
    exact ih ((hasDistinctEdges_iff.1 hf).2 _ (Dict.mem_of_get? hsub)) h

/-- A scope is put in the place of another one. -/
theorem updateAt (hf : f.HasDistinctEdges) {names : List String} {g : Flow → Flow}
    (hg : ∀ f, (g f).HasDistinctEdges) (h : updateAt? g names f = some f') :
    f'.HasDistinctEdges := by
  induction names generalizing f f' with
  | nil =>
    cases h
    exact hg f
  | cons name r ih =>
    obtain ⟨hedges, hbelow⟩ := hasDistinctEdges_iff.1 hf
    obtain ⟨sub, sub', hsub, hsub', rfl⟩ := updateAt?_cons_eq_some h
    refine hasDistinctEdges_iff.2 ⟨hedges, fun s hs => ?_⟩
    rcases Dict.mem_insert hs with rfl | hs
    · exact ih (hbelow _ (Dict.mem_of_get? hsub)) hsub'
    · exact hbelow s hs

end HasDistinctEdges

end Flow

/-! ### Edits -/

section Edits

variable {f f' : Flow}

/-- The edges of a scope that is changed can still be told apart: a new edge is refused if its name
is taken. -/
theorem Change.Makes.nodup_edges {c : Change} (h : c.Makes f f')
    (hf : (f.edges.map Edge.key).Nodup) :
    (f'.edges.map Edge.key).Nodup := by
  cases h with
  | addEdge _ _ hnew =>
    rw [List.map_append, List.map_singleton]
    exact hf.append (List.nodup_singleton _) (List.disjoint_singleton.2 (by simpa using hnew))
  | removeEdge _ => exact hf.sublist (List.filter_sublist.map Edge.key)
  | addNode _ | removeNode _ _ _ | updateNode _ _ | setEntry _ => exact hf

theorem Edit.apply_hasDistinctEdges {e : Edit} (h : e.apply f = .ok f') (hf : f.HasDistinctEdges) :
    f'.HasDistinctEdges := by
  obtain ⟨graph, changed, hgraph, hmakes, hupdate⟩ := Edit.apply_eq_ok h
  obtain ⟨hedges, hbelow⟩ := Flow.hasDistinctEdges_iff.1 (hf.descend hgraph)
  exact hf.updateAt (fun _ => Flow.hasDistinctEdges_iff.2
    ⟨hmakes.nodup_edges hedges, hmakes.subgraphs ▸ hbelow⟩) hupdate

/-- **Edits lead from edges that can be told apart to such edges.** -/
theorem Flow.edit_hasDistinctEdges {edits : List Edit} (h : f.edit edits = .ok f')
    (hf : f.HasDistinctEdges) : f'.HasDistinctEdges :=
  foldlM_induction (P := fun _ => HasDistinctEdges) (edit_eq_ok_iff.1 h) hf
    fun _ _ _ _ _ hc happly => Edit.apply_hasDistinctEdges happly hc

end Edits

/-! ### Merged layers -/

/-- A scope has one edge for each name that is declared in it. -/
theorem Flow.IsMergeOf.nodup_edges {f : Flow} {ds : Declared} (h : f.IsMergeOf ds) :
    (f.edges.map Edge.key).Nodup := by
  refine List.pairwise_map.2 (h.edges_order.imp_of_mem fun {a b} ha hb hlt hkey => ?_)
  -- two edges of one name would be the same, and none stands before itself
  obtain rfl : a = b := Option.some.inj ((h.edges a ha).symm.trans (hkey ▸ h.edges b hb))
  rcases hlt with hlt | ⟨-, hlt⟩ <;> exact lt_irrefl _ hlt

namespace Overlay

mutual

theorem resolve_hasDistinctEdges :
    ∀ {o : Overlay} {before : String} {m : Merged}, o.resolve before = .ok m →
      m.flow.HasDistinctEdges
  | ⟨ds, subgraphs⟩, before, m, h => by
      obtain ⟨f, fs, conflicts, hf, hfs, rfl⟩ := resolve_eq_ok h
      have hmerge : Flow.IsMergeOf { f with subgraphs := fs } ds :=
        (Draft.ofDeclarations_tracks before ds).finish hf rfl rfl rfl
      exact Flow.hasDistinctEdges_iff.2 ⟨hmerge.nodup_edges, resolveSubgraphs_hasDistinctEdges hfs⟩

theorem resolveSubgraphs_hasDistinctEdges :
    ∀ {subgraphs : List (String × Overlay)} {before : String} {fs : List (String × Flow)}
      {conflicts : List Conflict},
    resolveSubgraphs before subgraphs = .ok (fs, conflicts) → ∀ s ∈ fs, s.2.HasDistinctEdges
  | [], before, fs, conflicts, h => by
      cases h
      nofun
  | (name, o) :: r, before, fs, conflicts, h => by
      unfold resolveSubgraphs at h
      obtain ⟨m, hm, h⟩ := bind_eq_ok.1 h
      obtain ⟨⟨rest, _⟩, hrest, h⟩ := bind_eq_ok.1 h
      cases pure_eq_ok.1 h
      exact List.forall_mem_cons.2
        ⟨resolve_hasDistinctEdges hm, resolveSubgraphs_hasDistinctEdges hrest⟩

end

end Overlay

/-- **The edges of a merged flow can be told apart.** -/
theorem Layer.merge_hasDistinctEdges {layers : List Layer} {m : Merged} (h : merge layers = .ok m) :
    m.flow.HasDistinctEdges := by
  obtain ⟨m', hm', rfl⟩ := merge_eq_ok h
  have hflow : m'.flow.HasDistinctEdges := Overlay.resolve_hasDistinctEdges hm'
  -- the root is given its id afterwards
  refine (Flow.HasDistinctEdges.congr ?_ ?_).2 hflow
  · rfl
  · rfl

end Parley

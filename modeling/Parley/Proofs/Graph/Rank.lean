import Parley.Proofs.Graph.WellFormed

/-!
# Ranks of nodes and scopes

Where nothing is re-entrant, the checks for cycles see all links and all scopes that steps enter.
So nodes and scopes have ranks: a link leads to a node of lower rank in its scope, and a step enters
scopes of lower rank than its own.

* `Flow.IsPlain`, `Graph.IsPlain`: nothing is re-entrant;
* `Graph.Leads`, `Graph.Enters`: where links lead and which scopes steps enter;
* `Graph.Ranks`, `Host.nonempty_ranks`.
-/

namespace Parley

/-- No node and no edge in the scopes of a flow is re-entrant. -/
def Flow.IsPlain (f : Flow) : Prop :=
  ∀ p ∈ f.scopes, (∀ n ∈ p.2.nodes, n.reentrant = false) ∧ ∀ e ∈ p.2.edges, e.reentrant = false

/-- How many nodes the scopes of a flow have. -/
def Flow.nodeCount (f : Flow) : ℕ := (f.scopes.map fun p => p.2.nodes.length).sum

namespace Graph

/-- No step and no link is re-entrant. -/
def IsPlain (g : Graph) : Prop :=
  ∀ a ∈ g.areas, (∀ s ∈ a.steps, s.node.reentrant = false) ∧ ∀ l ∈ a.links, l.reentrant = false

/-- In a scope a link leads from one node to another. -/
def Leads (g : Graph) (scope : ScopeId) (m n : NodeId) : Prop :=
  ∃ a, g.area? scope = some a ∧ a.contains m = true ∧ ∃ l ∈ a.links, l.source = m ∧
    l.target = .node n

/-- A node of a scope may enter another scope. -/
def Enters (g : Graph) (scope : ScopeId) (id : NodeId) (inner : ScopeId) : Prop :=
  ∃ a s, g.area? scope = some a ∧ a.step? id = some s ∧ inner ∈ s.targets

/-- Ranks of the scopes of a graph, and of the nodes in each of them, which are below a bound. -/
structure Ranks (g : Graph) (bound : ℕ) where
  ofScope : ScopeId → ℕ
  ofNode : ScopeId → NodeId → ℕ
  scope_lt : ∀ {scope}, scope ∈ g.scopeIds → ofScope scope < g.areas.length
  node_lt : ∀ {scope a id}, g.area? scope = some a → a.contains id = true → ofNode scope id < bound
  enters : ∀ {scope id inner}, g.Enters scope id inner → ofScope inner < ofScope scope
  leads : ∀ {scope m n}, g.Leads scope m n → ofNode scope n < ofNode scope m

end Graph

/-! ### The two searches -/

/-- The search for cycles in a scope ranks its nodes. -/
theorem Area.exists_rank {a : Area} {known : List ScopeId} (ha : a.IsClosed known)
    (hsteps : ∀ s ∈ a.steps, s.node.reentrant = false) (hlinks : ∀ l ∈ a.links, l.reentrant = false)
    (hcycles : checkCycles a = .ok ()) :
    ∃ rank : NodeId → ℕ, (∀ id, a.contains id = true → rank id < a.steps.length) ∧
      ∀ m n, a.contains m = true → (∃ l ∈ a.links, l.source = m ∧ l.target = .node n) →
        rank n < rank m := by
  have hclosed : ∀ m ∈ a.steps.map Step.id, ∀ n, Arc a.plainSuccessors m n →
      n ∈ a.steps.map Step.id := by
    intro m _ n harc
    obtain ⟨l, hl, -, htarget, -⟩ := arc_plainSuccessors_iff.1 harc
    have hstays := ha.links l hl
    rwa [Link.StaysIn, htarget] at hstays
  obtain ⟨rank, hlt, harc⟩ := exists_rank_of_findCycle hclosed (by simp) (mapError_eq_ok.1 hcycles)
  rw [List.length_map] at hlt
  refine ⟨rank, fun id hid => hlt id (contains_iff.1 hid), ?_⟩
  rintro m n hm ⟨l, hl, hsource, htarget⟩
  exact harc m (contains_iff.1 hm) n (arc_plainSuccessors_iff.2
    ⟨l, hl, hsource, htarget, hlinks l hl, fun s hs => hsteps s (step?_mem hs)⟩)

namespace Graph

variable {g : Graph}

/-- The search for scopes that enter themselves ranks the scopes: a step that is not re-entrant
enters scopes of lower rank. -/
theorem exists_scopeRank (hg : g.IsClosed) (hrecursion : checkRecursion g.areas = .ok ()) :
    ∃ rank : ScopeId → ℕ, (∀ s ∈ g.scopeIds, rank s < g.areas.length) ∧
      ∀ s a step t, g.area? s = some a → step ∈ a.steps → step.node.reentrant = false →
        t ∈ step.targets →
        rank t < rank s := by
  have harc {s t : ScopeId} : Arc (fun s => (g.area? s).elim [] Area.calls) s t ↔
      ∃ a, g.area? s = some a ∧ ∃ step ∈ a.steps, step.node.reentrant = false ∧
        t ∈ step.targets := by
    cases ha : g.area? s with
    | none => simp [Arc, ha]
    | some a => simp [Arc, ha, Area.mem_calls]
  have hclosed : ∀ s ∈ g.scopeIds, ∀ t, Arc (fun s => (g.area? s).elim [] Area.calls) s t →
      t ∈ g.scopeIds := by
    intro s _ t h
    obtain ⟨a, ha, step, hstep, -, ht⟩ := harc.1 h
    exact (hg.areas a (area?_mem ha)).targets step hstep t ht
  have hbound : g.scopeIds.length ≤ g.areas.length := by simp [scopeIds]
  obtain ⟨rank, hlt, hrank⟩ := exists_rank_of_findCycle hclosed hbound (mapError_eq_ok.1 hrecursion)
  rw [scopeIds, List.length_map] at hlt
  refine ⟨rank, hlt, fun s a step t ha hstep hplain ht => ?_⟩
  exact hrank s (exists_area?_iff.1 ⟨a, ha⟩) t (harc.2 ⟨a, ha, step, hstep, hplain, ht⟩)

/-- Where nothing is re-entrant, all scopes that are entered have lower ranks. -/
theorem IsPlain.exists_scopeRank (hplain : g.IsPlain) (hg : g.IsClosed)
    (hrecursion : checkRecursion g.areas = .ok ()) :
    ∃ rank : ScopeId → ℕ, (∀ s ∈ g.scopeIds, rank s < g.areas.length) ∧
      ∀ s id t, g.Enters s id t → rank t < rank s := by
  obtain ⟨rank, hlt, hrank⟩ := Graph.exists_scopeRank hg hrecursion
  refine ⟨rank, hlt, ?_⟩
  rintro s id t ⟨a, step, ha, hstep, ht⟩
  have hmem := Area.step?_mem hstep
  exact hrank s a step t ha hmem ((hplain a (area?_mem ha)).1 step hmem) ht

end Graph

/-! ### Compiled flows -/

variable {host : Host} {f : Flow} {g : Graph}

theorem Host.compile_isPlain (h : host.compile f = .ok g) (hf : f.IsPlain) : g.IsPlain := by
  intro a ha
  obtain ⟨p, hp, hpa⟩ := exists_of_forall₂_right (Host.compile_eq_ok h).2.2 ha
  obtain ⟨hnodes, hedges⟩ := hf p hp
  constructor
  · rwa [← compileArea_nodes hpa, List.forall_mem_map] at hnodes
  · intro l hl
    obtain ⟨e, he, hof⟩ := exists_of_forall₂_right (compileArea_links hpa) hl
    rw [hof.reentrant]
    exact hedges e (List.mem_of_mem_filter he)

/-- No scope has more nodes than all of them together. -/
theorem Host.steps_length_le (h : host.compile f = .ok g) {a : Area} (ha : a ∈ g.areas) :
    a.steps.length ≤ f.nodeCount := by
  obtain ⟨p, hp, hpa⟩ := exists_of_forall₂_right (Host.compile_eq_ok h).2.2 ha
  rw [← List.length_map Step.node, compileArea_nodes hpa]
  exact List.le_sum_of_mem (List.mem_map_of_mem hp)

/-- **A compiled flow in which nothing is re-entrant has ranks.** -/
theorem Host.nonempty_ranks (h : host.compile f = .ok g) (hf : f.IsPlain) :
    Nonempty (g.Ranks f.nodeCount) := by
  have hg : g.IsClosed := Graph.IsCompiled.isClosed ⟨host, f, h⟩
  have hplain := Host.compile_isPlain h hf
  obtain ⟨hrecursion, hchecks⟩ := Host.compile_checks h
  obtain ⟨ofScope, hscope, henters⟩ := hplain.exists_scopeRank hg hrecursion
  have hnodes (a : Area) (ha : a ∈ g.areas) :=
    Area.exists_rank (hg.areas a ha) (hplain a ha).1 (hplain a ha).2 (hchecks a ha).1
  choose! ofNode hnode hleads using hnodes
  refine ⟨⟨ofScope, fun scope id => (g.area? scope).elim 0 fun a => ofNode a id, hscope _, ?_,
    henters _ _ _, ?_⟩⟩
  · intro scope a id ha hid
    have hmem := Graph.area?_mem ha
    rw [ha, Option.elim_some]
    exact (hnode a hmem id hid).trans_le (Host.steps_length_le h hmem)
  · rintro scope m n ⟨a, ha, hm, hl⟩
    simp only [ha, Option.elim_some]
    exact hleads a (Graph.area?_mem ha) m n hm hl

end Parley

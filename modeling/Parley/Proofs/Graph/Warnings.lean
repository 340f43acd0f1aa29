import Parley.Graph.Warning
import Parley.Proofs.Graph.Addresses
import Parley.Proofs.Graph.Reordered

/-!
# What compilation warns of

The warnings of a compiled flow say of its nodes and edges, as they are written, which ones no
conversation needs.

* `mem_reach_iff`: rounds enough reach everything that can be reached;
* `Flow.Joins`, `Flow.Reaches`, `mem_reachable_iff_reaches`: nodes to which edges lead from the
  entry;
* `Edge.isUnconditional`, `Flow.isShadowed`, `Flow.shadowWarnings`: edges behind one that always
  holds;
* `compileArea_links_places`: links and the places of their edges;
* `Host.unreachableNode_mem_iff`, `Host.shadowed_warnings`: the warnings of a graph.
-/

namespace Parley

open Relation (ReflTransGen)

/-! ### Reaching in rounds -/

section Reach

variable {α : Type} [DecidableEq α] {next : α → List α} {n : ℕ}
    {frontier seen points : List α} {a b : α}

/-- The points of a new round: those next to the frontier that have not been seen. -/
theorem mem_fresh : b ∈ ((frontier.flatMap next).filter fun a => a ∉ seen).eraseDups ↔
    (∃ a ∈ frontier, b ∈ next a) ∧ b ∉ seen := by
  rw [List.mem_eraseDups, List.mem_filter, List.mem_flatMap, decide_eq_true_eq]

theorem subset_reach : seen ⊆ reach next n frontier seen := by
  induction n generalizing frontier seen with
  | zero => exact List.Subset.refl _
  | succ n ih =>
    simp only [reach]
    split_ifs
    · exact List.Subset.refl _
    · exact List.Subset.trans (List.subset_append_right _ _) ih

/-- What is reached is led to. -/
theorem exists_of_mem_reach (hfrontier : frontier ⊆ seen) (h : b ∈ reach next n frontier seen) :
    ∃ a ∈ seen, ReflTransGen (fun a b => b ∈ next a) a b := by
  induction n generalizing frontier seen with
  | zero => exact ⟨b, h, .refl⟩
  | succ n ih =>
    simp only [reach] at h
    split_ifs at h
    · exact ⟨b, h, .refl⟩
    · obtain ⟨a, ha, hpath⟩ := ih (List.subset_append_left _ _) h
      rcases List.mem_append.1 ha with ha | ha
      · obtain ⟨⟨c, hc, hac⟩, -⟩ := mem_fresh.1 ha
        exact ⟨c, hfrontier hc, hpath.head hac⟩
      · exact ⟨a, ha, hpath⟩

/-- With a round for each point not seen, nothing is left next to what is reached. -/
theorem reach_closed (hpoints : ∀ a ∈ points, ∀ b ∈ next a, b ∈ points) (hseen : seen ⊆ points)
    (hfrontier : frontier ⊆ seen) (hpassed : ∀ a ∈ seen, a ∉ frontier → ∀ b ∈ next a, b ∈ seen)
    (hn : points.toFinset.card ≤ n + seen.toFinset.card) :
    ∀ a ∈ reach next n frontier seen, ∀ b ∈ next a, b ∈ reach next n frontier seen := by
  induction n generalizing frontier seen with
  | zero =>
    -- all points have been seen
    have hall : seen.toFinset = points.toFinset :=
      Finset.eq_of_subset_of_card_le (fun a ha => by simpa using hseen (by simpa using ha))
        (by omega)
    intro a ha b hb
    rw [reach, ← List.mem_toFinset, hall, List.mem_toFinset]
    exact hpoints a (hseen ha) b hb
  | succ n ih =>
    simp only [reach]
    split_ifs with hfresh
    · rw [List.isEmpty_iff] at hfresh
      intro a ha b hb
      by_contra hnew
      have hmem : b ∈ ((frontier.flatMap next).filter fun a => a ∉ seen).eraseDups := by
        refine mem_fresh.2 ⟨⟨a, ?_, hb⟩, hnew⟩
        by_contra hpast
        exact hnew (hpassed a ha hpast b hb)
      rw [hfresh] at hmem
      cases hmem
    · rw [List.isEmpty_iff] at hfresh
      obtain ⟨c, hc⟩ := List.exists_mem_of_ne_nil _ hfresh
      have hgrown : seen.toFinset.card <
          (((frontier.flatMap next).filter fun a => a ∉ seen).eraseDups ++ seen).toFinset.card := by
        refine Finset.card_lt_card ((Finset.ssubset_iff_of_subset fun a ha => ?_).2 ⟨c, ?_, ?_⟩)
        · exact List.mem_toFinset.2 (List.mem_append_right _ (List.mem_toFinset.1 ha))
        · exact List.mem_toFinset.2 (List.mem_append_left _ hc)
        · exact fun hold => (mem_fresh.1 hc).2 (List.mem_toFinset.1 hold)
      refine ih ?_ (List.subset_append_left _ _) ?_ (by omega)
      · intro a ha
        rcases List.mem_append.1 ha with ha | ha
        · obtain ⟨⟨c, hc, hac⟩, -⟩ := mem_fresh.1 ha
          exact hpoints c (hseen (hfrontier hc)) a hac
        · exact hseen ha
      · intro a ha hnew b hb
        have hold : a ∈ seen := (List.mem_append.1 ha).resolve_left hnew
        by_cases hb' : b ∈ seen
        · exact List.mem_append_right _ hb'
        · refine List.mem_append_left _ (mem_fresh.2 ⟨⟨a, ?_, hb⟩, hb'⟩)
          by_contra hpast
          exact hb' (hpassed a hold hpast b hb)

/-- **From a point, rounds enough reach all that can be reached.** -/
theorem mem_reach_iff (hpoints : ∀ a ∈ points, ∀ b ∈ next a, b ∈ points) (ha : a ∈ points)
    (hn : points.length ≤ n) : b ∈ reach next n [a] [a] ↔
      ReflTransGen (fun a b => b ∈ next a) a b := by
  constructor
  · intro h
    obtain ⟨c, hc, hpath⟩ := exists_of_mem_reach (List.Subset.refl _) h
    rwa [List.mem_singleton.1 hc] at hpath
  · intro h
    have hcard := (List.toFinset_card_le points).trans hn
    have hclosed : ∀ c ∈ reach next n [a] [a], ∀ d ∈ next c, d ∈ reach next n [a] [a] :=
      reach_closed hpoints (by simpa using ha) (List.Subset.refl _)
        (fun c hc hc' => absurd hc hc') (by omega)
    induction h with
    | refl => exact subset_reach (List.mem_singleton_self a)
    | tail _ hstep ih => exact hclosed _ ih _ hstep

end Reach

/-! ### What a flow says -/

/-- An edge leads from a node to another one, be it followed or there for invalid answers. -/
def Flow.Joins (d : Flow) (m n : NodeId) : Prop := ∃ e ∈ d.edges, e.source = m ∧ e.target = n

/-- Edges lead from the entry of a scope to a node. -/
def Flow.Reaches (d : Flow) (id : NodeId) : Prop :=
  ∃ entry, d.entryNode? = some entry ∧ ReflTransGen d.Joins entry id

/-- The guard of an edge is missing, or the constant `true`. -/
def Edge.isUnconditional (e : Edge) : Bool :=
  match Guard.parseEdgeGuard e.guard with
  | .ok .always => true
  | .ok (.condition (.literal true)) => true
  | _ => false

/-- Before the place of an edge stands another one from the same node that is followed without
condition. -/
def Flow.isShadowed (d : Flow) (e : Edge) (place : ℕ) : Bool :=
  !e.onInvalid && (d.edges.take place).any fun b => !b.onInvalid && b.source = e.source &&
    b.isUnconditional

/-- The warnings about the shadowed edges of a scope, node by node. -/
def Flow.shadowWarnings (scope : ScopeId) (d : Flow) : List Warning :=
  d.nodes.flatMap fun n =>
    (d.edges.zipIdx.filter fun p => p.1.source = n.id && d.isShadowed p.1 p.2).map fun p =>
      .shadowedEdge scope n.id (p.1.source ++ "->" ++ p.1.target)

def Warning.isShadowedEdge : Warning → Bool
  | .shadowedEdge _ _ _ => true
  | .unreachableNode _ _ => false

variable {host : Host} {known : List ScopeId} {scope : ScopeId} {d : Flow} {a : Area}
    {id m n : NodeId}

/-! ### Nodes that are reached -/

theorem compileEntry_eq_ok {entry : NodeId} (h : compileEntry scope d = .ok entry) :
    d.entryNode? = some entry := by
  unfold compileEntry at h
  split at h
  · rename_i declared _ hentry
    split_ifs at h
    cases h
    rw [Flow.entryNode?, hentry, Option.some_or]
  · rename_i n _ hentry hnodes
    cases h
    rw [Flow.entryNode?, hentry, hnodes]
    rfl
  · cases h

theorem compileArea_invalidTargets (h : compileArea host known scope d = .ok a) :
    a.invalidTargets = (d.edges.filter (·.onInvalid)).map fun e => (e.source, e.target) :=
  (compileEdges_areOf Edges.areOf_nil (compileArea_eq_ok h).2.2.2).invalid

theorem compileArea_ids (h : compileArea host known scope d = .ok a) :
    a.steps.map Step.id = d.nodes.map Node.id := by
  rw [map_step_id, compileArea_nodes h]

/-- The edge for invalid answers of a node leads to its target. -/
theorem compileArea_invalidTarget? (h : compileArea host known scope d = .ok a) :
    a.invalidTarget? m = some n ↔ ∃ e ∈ d.edges, e.onInvalid = true ∧ e.source = m ∧
      e.target = n := by
  have hregular := exists_compileArea_iff.1 ⟨a, h⟩
  have hmem (p : NodeId × NodeId) :
      p ∈ a.invalidTargets ↔ ∃ e ∈ d.edges, e.onInvalid = true ∧ (e.source, e.target) = p := by
    simp [compileArea_invalidTargets h, and_assoc]
  unfold Area.invalidTarget?
  rw [Option.map_eq_some_iff]
  constructor
  · rintro ⟨p, hp, rfl⟩
    obtain ⟨e, he, hinvalid, rfl⟩ := (hmem p).1 (List.mem_of_find?_eq_some hp)
    exact ⟨e, he, hinvalid, by simpa using List.find?_some hp, rfl⟩
  · rintro ⟨e, he, hinvalid, rfl, rfl⟩
    have hfound : (a.invalidTargets.find? fun p => p.1 = e.source).isSome := by
      rw [List.find?_isSome]
      exact ⟨_, (hmem _).2 ⟨e, he, hinvalid, rfl⟩, by simp⟩
    obtain ⟨p, hp⟩ := Option.isSome_iff_exists.1 hfound
    obtain ⟨e', he', hinvalid', rfl⟩ := (hmem p).1 (List.mem_of_find?_eq_some hp)
    have hsource : e'.source = e.source := by simpa using List.find?_some hp
    refine ⟨_, hp, ?_⟩
    -- a node has one such edge only
    by_contra hne
    have hsymm : Std.Symm fun e e' : Edge => ¬ e.Clashes host e' :=
      ⟨fun e e' hnot hclash => hnot ⟨hclash.1.symm, hclash.2.imp And.symm And.symm⟩⟩
    exact hregular.apart.forall he' he (fun heq => hne (by rw [heq]))
      ⟨hsource, .inl ⟨hinvalid', hinvalid⟩⟩

/-- In a compiled scope a node succeeds another one just when an edge joins them. -/
theorem mem_successors_iff (h : compileArea host known scope d = .ok a) :
    n ∈ a.successors m ↔ d.Joins m n ∧ n ∈ d.nodes.map Node.id := by
  have hregular := exists_compileArea_iff.1 ⟨a, h⟩
  rw [Area.successors, List.mem_append, List.mem_filterMap, Option.mem_toList,
    compileArea_invalidTarget? h]
  constructor
  · rintro (⟨l, hl, htarget⟩ | ⟨e, he, hinvalid, rfl, rfl⟩)
    · obtain ⟨hl, hsource⟩ := List.mem_filter.1 hl
      rw [decide_eq_true_eq] at hsource
      obtain ⟨e, he, hof⟩ := exists_of_forall₂_right (compileArea_links h) hl
      have hstays := (compileArea_isClosed h).links l hl
      rw [Link.StaysIn, compileArea_ids h] at hstays
      have hends := hof.target
      split at htarget <;> cases htarget
      rename_i htarget
      rw [htarget] at hstays hends
      split_ifs at hends
      cases hends
      exact ⟨⟨e, (List.mem_filter.1 he).1, hof.source.symm.trans hsource, rfl⟩, hstays⟩
    · exact ⟨⟨e, he, rfl, rfl⟩, (hregular.edges e he).invalid hinvalid⟩
  · rintro ⟨⟨e, he, rfl, rfl⟩, hn⟩
    cases hinvalid : e.onInvalid with
    | true => exact .inr ⟨e, he, hinvalid, rfl, rfl⟩
    | false =>
      obtain ⟨l, hl, hof⟩ := exists_of_forall₂_right (compileArea_links h).flip
        (List.mem_filter.2 ⟨he, by simp [hinvalid]⟩)
      refine .inl ⟨l, List.mem_filter.2 ⟨hl, by simpa using hof.source⟩, ?_⟩
      obtain ⟨node, hnode, hid⟩ := List.mem_map.1 hn
      have hexits : e.exits = false := by
        rw [Edge.exits, decide_eq_false_iff_not, ← hid]
        exact (hregular.nodes node hnode).id_ne
      simp [hof.target, hexits]

/-- What is reached in a compiled scope is what its successors lead to. -/
theorem mem_reachable_iff (h : compileArea host known scope d = .ok a) :
    id ∈ a.reachable ↔ ReflTransGen (fun m n => n ∈ a.successors m) a.entry id := by
  have hpoints : ∀ m ∈ a.steps.map Step.id, ∀ n ∈ a.successors m, n ∈ a.steps.map Step.id := by
    intro m _ n hn
    rw [compileArea_ids h]
    exact ((mem_successors_iff h).1 hn).2
  exact mem_reach_iff hpoints (Area.contains_iff.1 (compileArea_isClosed h).entry) (by simp)

theorem entry_mem_reachable (h : compileArea host known scope d = .ok a) : a.entry ∈ a.reachable :=
  (mem_reachable_iff h).2 .refl

theorem mem_reachable_of_mem_successors (h : compileArea host known scope d = .ok a)
    (hm : m ∈ a.reachable) (hn : n ∈ a.successors m) : n ∈ a.reachable :=
  (mem_reachable_iff h).2 (((mem_reachable_iff h).1 hm).tail hn)

/-- **A node is reached just when edges lead to it from the entry.** -/
theorem mem_reachable_iff_reaches (h : compileArea host known scope d = .ok a)
    (hid : id ∈ d.nodes.map Node.id) :
    id ∈ a.reachable ↔ d.Reaches id := by
  have hregular := exists_compileArea_iff.1 ⟨a, h⟩
  have hentry := compileEntry_eq_ok (compileArea_eq_ok h).2.2.1
  have hreaches : d.Reaches id ↔ ReflTransGen d.Joins a.entry id := by simp [Flow.Reaches, hentry]
  rw [mem_reachable_iff h, hreaches]
  constructor
  · exact fun hpath => ReflTransGen.mono (fun m n hn => ((mem_successors_iff h).1 hn).1) _ _ hpath
  · intro hpath
    clear hreaches
    -- the way stays among the nodes, as no edge starts anywhere else
    induction hpath with
    | refl => exact .refl
    | tail _ hjoins ih =>
      obtain ⟨e, he, hsource, htarget⟩ := hjoins
      refine (ih (hsource ▸ (hregular.edges e he).source)).tail ?_
      exact (mem_successors_iff h).2 ⟨⟨e, he, hsource, htarget⟩, hid⟩

/-! ### Edges that are shadowed -/

/-- A link is made from the edge at a place. -/
structure Link.IsAt (host : Host) (p : Edge × ℕ) (l : Link) : Prop extends l.IsOf host p.1 where
  valid : p.1.onInvalid = false
  index : l.index = p.2

/-- An edge for invalid answers adds no link, and any other one adds its own. -/
theorem compileEdge_links {ids : List NodeId} {done done' : Edges} {index : ℕ} {e : Edge}
    (h : compileEdge host scope ids done index e = .ok done') :
    e.onInvalid = true ∧ done'.links = done.links ∨ ∃ l, l.IsAt host (e, index) ∧
      done'.links = done.links ++ [l] := by
  unfold compileEdge at h
  split_ifs at h with _ _ he
  · unfold compileInvalidEdge at h
    split_ifs at h
    cases h
    exact .inl ⟨he, rfl⟩
  · unfold compileLink at h
    obtain ⟨target, htarget, h⟩ := bind_eq_ok.1 h
    obtain ⟨guard, hguard, h⟩ := bind_eq_ok.1 h
    split at h
    · cases h
    · rw [← pure_eq_ok.1 h]
      exact .inr ⟨⟨index, e.source, target, guard, e.reentrant⟩,
        ⟨⟨rfl, compileTarget_eq_ok htarget, mapError_eq_ok.1 hguard, rfl⟩,
          by simpa using he, rfl⟩, rfl⟩

theorem compileEdges_links {ids : List NodeId} {done done' : Edges} {index : ℕ} {es : List Edge}
    (h : compileEdges host scope ids done index es = .ok done') :
    ∃ new, done'.links = done.links ++ new ∧
      List.Forall₂ (Link.IsAt host) ((es.zipIdx index).filter (!·.1.onInvalid)) new := by
  induction es generalizing done index with
  | nil =>
    cases h
    exact ⟨[], (List.append_nil _).symm, .nil⟩
  | cons e r ih =>
    rw [compileEdges] at h
    obtain ⟨next, he, h⟩ := bind_eq_ok.1 h
    obtain ⟨new, hnew, hplaces⟩ := ih h
    rw [List.zipIdx_cons]
    rcases compileEdge_links he with ⟨hinvalid, hlinks⟩ | ⟨l, hl, hlinks⟩
    · refine ⟨new, by rw [hnew, hlinks], ?_⟩
      rwa [List.filter_cons_of_neg (by simp [hinvalid])]
    · have hvalid : e.onInvalid = false := hl.valid
      refine ⟨l :: new, by rw [hnew, hlinks, List.append_assoc]; rfl, ?_⟩
      rw [List.filter_cons_of_pos (by simp [hvalid])]
      exact .cons hl hplaces

/-- The links of a compiled scope are its edges with their places, those for invalid answers
aside. -/
theorem compileArea_links_places (h : compileArea host known scope d = .ok a) :
    List.Forall₂ (Link.IsAt host) (d.edges.zipIdx.filter (!·.1.onInvalid)) a.links := by
  obtain ⟨new, hnew, hplaces⟩ := compileEdges_links (compileArea_eq_ok h).2.2.2
  rw [show a.links = new from hnew]
  exact hplaces

theorem compileArea_exists_isAt (h : compileArea host known scope d = .ok a) {l : Link}
    (hl : l ∈ a.links) :
    ∃ e, d.edges[l.index]? = some e ∧ l.IsAt host (e, l.index) := by
  obtain ⟨⟨e, place⟩, hp, hat⟩ := exists_of_forall₂_right (compileArea_links_places h) hl
  obtain rfl : l.index = place := hat.index
  exact ⟨e, List.mem_zipIdx_iff_getElem?.1 (List.mem_filter.1 hp).1, hat⟩

/-- Links stand in the order of their edges. -/
theorem compileArea_links_increasing (h : compileArea host known scope d = .ok a) :
    a.links.Pairwise fun l l' => l.index < l'.index := by
  have hplaces : (d.edges.zipIdx.map Prod.snd).Pairwise (· < ·) := by
    rw [List.zipIdx_map_snd]
    exact List.pairwise_lt_range'
  have hindex : a.links.map Link.index = (d.edges.zipIdx.filter (!·.1.onInvalid)).map Prod.snd :=
    map_eq_map_of_forall₂ ((compileArea_links_places h).flip.imp fun l p hat => hat.index)
  rw [← List.pairwise_map, hindex]
  exact hplaces.sublist (List.filter_sublist.map _)

theorem Link.IsOf.isAlwaysTrue {e : Edge} {l : Link} (h : l.IsOf host e) :
    l.guard.isAlwaysTrue = e.isUnconditional := by
  have hguard := h.guard
  unfold Guard.compileEdgeGuard at hguard
  obtain ⟨g, hparse, hguard⟩ := bind_eq_ok.1 hguard
  obtain ⟨-, -, hguard⟩ := bind_eq_ok.1 hguard
  rw [← pure_eq_ok.1 hguard, Edge.isUnconditional, hparse]
  cases g with
  | always | otherwise => rfl
  | condition e =>
    rw [Guard.EdgeGuard.isAlwaysTrue]
    cases e with
    | literal b => cases b <;> rfl
    | _ => rfl

theorem Link.IsOf.label {e : Edge} {l : Link} (h : l.IsOf host e) :
    l.source ++ "->" ++ l.target.text = e.source ++ "->" ++ e.target := by
  rw [h.source, h.target]
  split_ifs with hexits
  · rw [Edge.exits, decide_eq_true_eq] at hexits
    rw [hexits]
    rfl
  · rfl

/-- An edge is shadowed just when a link before its own leads from the same node and always
holds. -/
theorem isShadowed_iff (h : compileArea host known scope d = .ok a) {p : Edge × ℕ} {l : Link}
    (hl : l.IsAt host p) :
    d.isShadowed p.1 p.2 = true ↔
      ∃ b ∈ a.outgoing l.source, b.guard.isAlwaysTrue = true ∧ b.index < l.index := by
  unfold Flow.isShadowed Area.outgoing
  rw [hl.valid, Bool.not_false, Bool.true_and, List.any_eq_true, hl.index, hl.source]
  constructor
  · rintro ⟨e, he, hb⟩
    rw [Bool.and_eq_true, Bool.and_eq_true, Bool.not_eq_true', decide_eq_true_eq] at hb
    obtain ⟨place, hplace, rfl⟩ := List.mem_take_iff_getElem.1 he
    have hplaced : (d.edges[place], place) ∈ d.edges.zipIdx.filter (!·.1.onInvalid) :=
      List.mem_filter.2 ⟨List.mem_zipIdx_iff_getElem?.2 (List.getElem?_eq_getElem _), by
        simp [hb.1.1]⟩
    obtain ⟨b, hb', hat⟩ := exists_of_forall₂_right (compileArea_links_places h).flip hplaced
    refine ⟨b, List.mem_filter.2 ⟨hb', by simpa using hat.source.trans hb.1.2⟩, ?_, ?_⟩
    · rw [hat.isAlwaysTrue]
      exact hb.2
    · rw [hat.index]
      exact lt_of_lt_of_le hplace (min_le_left _ _)
  · rintro ⟨b, hb, halways, hbefore⟩
    obtain ⟨hb, hsource⟩ := List.mem_filter.1 hb
    rw [decide_eq_true_eq] at hsource
    obtain ⟨e, he, hat⟩ := compileArea_exists_isAt h hb
    obtain ⟨hlength, rfl⟩ := List.getElem?_eq_some_iff.1 he
    refine ⟨_, List.mem_take_iff_getElem.2 ⟨b.index, lt_min hbefore hlength, rfl⟩, ?_⟩
    rw [hat.valid, ← hat.source, hsource, ← hat.isAlwaysTrue, halways]
    simp

/-- What stands behind the first element of some kind: the elements with one of this kind before
them. -/
theorem tail_dropWhile_eq_filter {α : Type} {p : α → Bool} {place : α → ℕ} {xs : List α}
    (h : xs.Pairwise fun x y => place x < place y) :
    (xs.dropWhile fun x => !p x).tail = xs.filter fun x => xs.any fun y =>
      p y && place y < place x := by
  induction xs with
  | nil => rfl
  | cons x xs ih =>
    obtain ⟨hx, hxs⟩ := List.pairwise_cons.1 h
    have hfirst : ((x :: xs).any fun y => p y && place y < place x) = false := by
      rw [List.any_eq_false]
      intro y hy
      have hle : place x ≤ place y :=
        (List.mem_cons.1 hy).elim (fun heq => by rw [heq]) fun hy => (hx y hy).le
      simp [hle]
    rw [List.filter_cons_of_neg (by rw [hfirst]; nofun)]
    cases hp : p x with
    | true =>
      rw [List.dropWhile_cons_of_neg (by simp [hp]), List.tail_cons]
      refine (List.filter_eq_self.2 fun y hy => ?_).symm
      simp [hp, hx y hy]
    | false =>
      rw [List.dropWhile_cons_of_pos (by simp [hp]), ih hxs]
      exact List.filter_congr fun y _ => by simp [hp]

/-- The links that are reported as shadowed are those with one before them that always holds. -/
theorem shadowed_eq_filter (h : compileArea host known scope d = .ok a) :
    a.shadowed id = (a.outgoing id).filter fun l =>
      (a.outgoing id).any fun b => b.guard.isAlwaysTrue && b.index < l.index :=
  tail_dropWhile_eq_filter ((compileArea_links_increasing h).sublist List.filter_sublist)

/-- **The links reported from a node are its shadowed edges, in order.** -/
theorem shadowed_labels (h : compileArea host known scope d = .ok a) (id : NodeId) :
    (a.shadowed id).map (fun l => l.source ++ "->" ++ l.target.text) =
      (d.edges.zipIdx.filter fun p => p.1.source = id && d.isShadowed p.1 p.2).map fun p =>
        p.1.source ++ "->" ++ p.1.target := by
  have hvalid : (d.edges.zipIdx.filter fun p => p.1.source = id && d.isShadowed p.1 p.2) =
      (d.edges.zipIdx.filter (!·.1.onInvalid)).filter fun p =>
        p.1.source = id && d.isShadowed p.1 p.2 := by
    rw [List.filter_filter]
    refine List.filter_congr fun p _ => ?_
    cases hp : p.1.onInvalid <;> simp [Flow.isShadowed, hp]
  have hkind : ∀ p l, Link.IsAt host p l → ((p.1.source = id && d.isShadowed p.1 p.2) = true ↔
      ((a.outgoing id).any (fun b => b.guard.isAlwaysTrue && b.index < l.index) && l.source = id) =
        true) := by
    intro p l hat
    rw [Bool.and_eq_true, Bool.and_eq_true, decide_eq_true_eq, decide_eq_true_eq, ← hat.source,
      isShadowed_iff h hat, and_comm]
    refine and_congr_left fun hsource => ?_
    simp [hsource]
  rw [shadowed_eq_filter h, hvalid, Area.outgoing, List.filter_filter]
  have hboth := List.rel_filter (fun _ _ hat => hkind _ _ hat) (compileArea_links_places h)
  exact map_eq_map_of_forall₂ (hboth.flip.imp fun l p hat => hat.label)

/-! ### The warnings of a graph -/

variable {f : Flow} {g : Graph}

theorem Host.compile_warnings (hg : host.compile f = .ok g) :
    g.warnings = g.areas.flatMap Area.warnings := by
  unfold Host.compile at hg
  obtain ⟨-, hg⟩ := ite_throw_eq_ok.1 hg
  obtain ⟨areas, -, hg⟩ := bind_eq_ok.1 hg
  obtain ⟨-, -, hg⟩ := bind_eq_ok.1 hg
  obtain ⟨-, -, hg⟩ := bind_eq_ok.1 hg
  rw [← pure_eq_ok.1 hg]

theorem Area.unreachableNode_mem_warnings : .unreachableNode scope id ∈ a.warnings ↔
    a.id = scope ∧ id ∈ a.steps.map Step.id ∧ id ∉ a.reachable := by
  simp [Area.warnings, Area.unreachableNodes]
  tauto

/-- A node is reported just when no edges lead to it from the entry of its scope. -/
theorem Host.unreachableNode_mem_iff (hg : host.compile f = .ok g) (scope : ScopeId) (id : NodeId) :
    .unreachableNode scope id ∈ g.warnings ↔
      ∃ d, (scope, d) ∈ f.scopes ∧ id ∈ d.nodes.map Node.id ∧ ¬ d.Reaches id := by
  have hareas := (Host.compile_eq_ok hg).2.2
  rw [Host.compile_warnings hg, List.mem_flatMap]
  constructor
  · rintro ⟨a, ha, hwarning⟩
    obtain ⟨rfl, hid, hnot⟩ := Area.unreachableNode_mem_warnings.1 hwarning
    obtain ⟨⟨s, d⟩, hp, hpa⟩ := exists_of_forall₂_right hareas ha
    rw [compileArea_ids hpa] at hid
    rw [(compileArea_eq_ok hpa).1]
    exact ⟨d, hp, hid, fun hreaches => hnot ((mem_reachable_iff_reaches hpa hid).2 hreaches)⟩
  · rintro ⟨d, hp, hid, hnot⟩
    obtain ⟨a, ha, hpa⟩ := exists_of_forall₂_right hareas.flip hp
    refine ⟨a, ha, Area.unreachableNode_mem_warnings.2 ⟨(compileArea_eq_ok hpa).1, ?_, ?_⟩⟩
    · rwa [compileArea_ids hpa]
    · exact fun hmem => hnot ((mem_reachable_iff_reaches hpa hid).1 hmem)

/-- The other warnings of a scope are those about its shadowed edges. -/
theorem compileArea_shadowWarnings (h : compileArea host known scope d = .ok a) :
    a.warnings.filter Warning.isShadowedEdge = d.shadowWarnings scope := by
  have hnone : (a.unreachableNodes.map (Warning.unreachableNode a.id)).filter
      Warning.isShadowedEdge = [] := by
    simp [List.filter_eq_nil_iff, Warning.isShadowedEdge]
  have hall : ∀ w ∈ a.steps.flatMap (fun s => (a.shadowed s.id).map fun l =>
      Warning.shadowedEdge a.id s.id (l.source ++ "->" ++ l.target.text)),
          w.isShadowedEdge = true := by
    simp only [List.mem_flatMap, List.mem_map]
    rintro w ⟨s, -, l, -, rfl⟩
    rfl
  have hlabels (s : Step) : (a.shadowed s.id).map (fun l =>
      Warning.shadowedEdge a.id s.id (l.source ++ "->" ++ l.target.text)) =
      (d.edges.zipIdx.filter fun p => p.1.source = s.id && d.isShadowed p.1 p.2).map fun p =>
        .shadowedEdge scope s.id (p.1.source ++ "->" ++ p.1.target) := by
    have hmap := congrArg (List.map (Warning.shadowedEdge scope s.id)) (shadowed_labels h s.id)
    rw [List.map_map, List.map_map] at hmap
    rw [(compileArea_eq_ok h).1]
    exact hmap
  rw [Area.warnings, List.filter_append, hnone, List.nil_append, List.filter_eq_self.2 hall,
    Flow.shadowWarnings, ← compileArea_nodes h, List.flatMap_map]
  exact List.flatMap_congr fun s _ => hlabels s

/-- The edges that are reported are the shadowed ones, in order. -/
theorem Host.shadowed_warnings (hg : host.compile f = .ok g) :
    g.warnings.filter Warning.isShadowedEdge = f.scopes.flatMap fun p =>
      p.2.shadowWarnings p.1 := by
  have hareas := (Host.compile_eq_ok hg).2.2
  rw [Host.compile_warnings hg, List.filter_flatMap, List.flatMap_def, List.flatMap_def]
  exact congrArg List.flatten
    (map_eq_map_of_forall₂ (hareas.flip.imp fun a p hpa => compileArea_shadowWarnings hpa))

end Parley

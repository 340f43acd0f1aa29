import Parley.Proofs.Layer.Precedence

/-!
# Edges at nodes that were taken away

To take a node away is to take its edges away with it.  The merge leaves them out only at the end,
where it asks which nodes are gone; so if a node is taken away and then declared again, the edges
that were declared before come back with it, although what had been set for the node itself does
not.

* `Declared.IsRooted`: an edge that was declared after its ends were last taken away;
* `Declared.ComesBack`: a node that was taken away and declared again since an edge was last
  declared;
* `Declared.isRooted_iff`: the one is the case unless the other is;
* `Layer.merge_rooted_iff`: for all edges of a merged flow;
* `Samples.secondReview_unrooted`: an edge that comes back.
-/

namespace Parley

namespace Declared

variable {ds pre post : Declared} {x : String × Declaration} {e : Edge} {element : Element}
    {id : NodeId} {key : String}

/-- An edge was declared after the last removals of the nodes at its ends. -/
def IsRooted (ds : Declared) (e : Edge) : Prop :=
  ∃ front layer p back, ds = front ++ (layer, .edge p) :: back ∧ p.remove = false ∧ p.key = e.key ∧
    ∀ x ∈ back, x.2.removes = true → x.2.element ≠ .node e.source ∧ x.2.element ≠ .node e.target

/-- Since an edge was last declared, a node was taken away and later declared again. -/
def ComesBack (ds : Declared) (id : NodeId) (key : String) : Prop :=
  ∃ front x mid y back, ds = front ++ x :: (mid ++ y :: back) ∧
    (x.2.element = .node id ∧ x.2.removes = true) ∧
    (y.2.element = .node id ∧ y.2.removes = false) ∧ ∀ z ∈ mid ++ y :: back, z.2.element ≠ .edge key

/-- What is taken away and is not gone in the end was declared again. -/
theorem exists_of_not_isGone (hgone : ¬ IsGone element (pre ++ x :: post))
    (hx : x.2.element = element) (hremoves : x.2.removes = true) :
    ∃ y ∈ post, y.2.element = element ∧ y.2.removes = false := by
  have habout : about element (pre ++ x :: post) = pre.about element ++ x ::
      about element post := by
    rw [about, List.filter_append, List.filter_cons, if_pos (decide_eq_true hx)]
    rfl
  let y := (x :: about element post).getLast (List.cons_ne_nil _ _)
  have hlast : (about element (pre ++ x :: post)).getLast? = some y := by
    rw [habout, List.getLast?_append_of_ne_nil _ (List.cons_ne_nil _ _),
      List.getLast?_eq_getLast_of_ne_nil]
  have hy : y.2.removes = false := Bool.eq_false_iff.2 fun h => hgone ⟨y, hlast, h⟩
  rcases List.mem_cons.1 (List.getLast_mem (List.cons_ne_nil x (about element post))) with
    heq | hmem
  · rw [show y = x from heq, hremoves] at hy
    cases hy
  · obtain ⟨hpost, helement⟩ := List.mem_filter.1 hmem
    exact ⟨y, hpost, of_decide_eq_true helement, hy⟩

/-- A node that comes back was taken away after all declarations of the edge. -/
theorem IsRooted.not_comesBack (h : ds.IsRooted e) (hid : id = e.source ∨ id = e.target) :
    ¬ ds.ComesBack id e.key := by
  rintro ⟨front', x, mid, y, back', heq, ⟨hx, hremoves⟩, -, hlater⟩
  obtain ⟨front, layer, p, back, rfl, -, hkey, hback⟩ := h
  have hedge : (Declaration.edge p).element = .edge e.key := congrArg Element.edge hkey
  have hkept : x ∉ back := by
    intro hmem
    obtain ⟨hsource, htarget⟩ := hback x hmem hremoves
    rcases hid with rfl | rfl
    · exact hsource hx
    · exact htarget hx
  rcases List.append_eq_append_iff.1 heq with ⟨between, rfl, h⟩ | ⟨between, rfl, h⟩
  · rcases List.cons_eq_append_iff.1 h with ⟨rfl, h⟩ | ⟨between, rfl, rfl⟩
    · cases h
      cases hx
    · exact hkept (List.mem_append_right _ List.mem_cons_self)
  · rcases List.cons_eq_append_iff.1 h with ⟨rfl, h⟩ | ⟨between, rfl, h⟩
    · cases h
      cases hx
    · refine hlater (layer, .edge p) ?_ hedge
      rw [(List.cons.inj h).2]
      exact List.mem_append_right _ List.mem_cons_self

/-- **An edge that stands, and whose ends are not gone, was declared after their last removals
unless one of them has come back.** -/
theorem isRooted_iff (hstands : ds.Stands (.edge e.key)) (hsource : ¬ ds.IsGone (.node e.source))
    (htarget : ¬ ds.IsGone (.node e.target)) :
    ds.IsRooted e ↔ ¬ ds.ComesBack e.source e.key ∧ ¬ ds.ComesBack e.target e.key := by
  refine ⟨fun h => ⟨h.not_comesBack (.inl rfl), h.not_comesBack (.inr rfl)⟩, fun ⟨hs, ht⟩ => ?_⟩
  -- the last declaration of the edge comes after the last removals
  obtain ⟨⟨layer, d⟩, hlast, hremoves⟩ := hstands
  obtain ⟨front, back, rfl, helement, hback⟩ := getLast?_filter_eq_some_iff.1 hlast
  have hcomesBack {x : String × Declaration} (hx : x ∈ back) (hremoves : x.2.removes = true)
    {id : NodeId}
      (hgone : ¬ IsGone (.node id) (front ++ (layer, d) :: back)) (hxid : x.2.element = .node id) :
      ComesBack (front ++ (layer, d) :: back) id e.key := by
    obtain ⟨before, after, rfl⟩ := List.append_of_mem hx
    have hsplit : front ++ (layer, d) :: (before ++ x :: after) = (front ++ (layer, d) :: before) ++
        x :: after := by
      simp
    obtain ⟨y, hy, hyid, hyremoves⟩ := exists_of_not_isGone (hsplit ▸ hgone) hxid hremoves
    obtain ⟨mid, rest, rfl⟩ := List.append_of_mem hy
    refine ⟨_, x, mid, y, rest, hsplit, ⟨hxid, hremoves⟩, ⟨hyid, hyremoves⟩, fun z hz hzkey => ?_⟩
    exact hback z (List.mem_append_right _ (List.mem_cons_of_mem _ hz)) (decide_eq_true hzkey)
  cases d with
  | entry _ => cases of_decide_eq_true helement
  | node _ => cases of_decide_eq_true helement
  | edge p =>
    refine ⟨front, layer, p, back, rfl, hremoves, Element.edge.inj (of_decide_eq_true helement),
      fun x hx hxr => ?_⟩
    exact ⟨fun h => hs (hcomesBack hx hxr hsource h), fun h => ht (hcomesBack hx hxr htarget h)⟩

end Declared

/-- The ends of an edge in a merged scope are not gone. -/
theorem Flow.IsMergeOf.ends {f : Flow} {ds : Declared} (h : f.IsMergeOf ds) {e : Edge}
    (he : e ∈ f.edges) :
    ds.Stands (.edge e.key) ∧ ¬ ds.IsGone (.node e.source) ∧ ¬ ds.IsGone (.node e.target) := by
  obtain ⟨hstands, hends⟩ := (h.edge_iff e.key).1 ⟨e, he, rfl⟩
  obtain ⟨last, hlast, heq⟩ := Option.map_eq_some_iff.1 (h.edges e he)
  have hlast := hends last (Draft.getLast?_edgePatches_about hlast)
  rw [← heq] at hstands ⊢
  exact ⟨hstands, hlast⟩

/-- **Which edges survive the removals of their ends.**  No edge of a merged flow is at a node that
is gone in the end.  Each was declared after its ends were last taken away, unless one of these was
taken away after all declarations of the edge and then declared again. -/
theorem Layer.merge_rooted_iff {layers : List Layer} {m : Merged} (h : merge layers = .ok m)
    {path : List String} {f : Flow} (hf : m.flow.descend? path = some f) {e : Edge}
    (he : e ∈ f.edges) :
    ¬ (declarationsAt layers path).IsGone (.node e.source) ∧
      ¬ (declarationsAt layers path).IsGone (.node e.target) ∧
      ((declarationsAt layers path).IsRooted e ↔
        ¬ (declarationsAt layers path).ComesBack e.source e.key ∧
          ¬ (declarationsAt layers path).ComesBack e.target e.key) := by
  rcases merge_descend h path with
    ⟨-, hnone⟩ | ⟨-, before, f', base, hf', hbase, hentry, hnodes, hedges⟩
  · rw [hnone] at hf
    cases hf
  · obtain rfl : f' = f := Option.some.inj (hf'.symm.trans hf)
    have hmerge : f'.IsMergeOf (declarationsAt layers path) :=
      (Draft.ofDeclarations_tracks before _).finish hbase hentry hnodes hedges
    obtain ⟨hstands, hsource, htarget⟩ := hmerge.ends he
    exact ⟨hsource, htarget, Declared.isRooted_iff hstands hsource htarget⟩

/-! ### An edge that comes back -/

namespace Samples

/-- A review that a tenant takes away, and that one flow puts in its place again as an
escalation. -/
def secondReview : List Layer := [
  { tier := .global
    id := some "desk"
    graph := {
      nodes := [
        { id := "ask", kind := some .question, key := some "amount", prompt := some "How much?" },
        { id := "review", kind := some .terminal },
        { id := "end", kind := some .terminal }]
      edges := [
        { source := "ask", target := "review", guard := some "amount > 100" },
        { source := "ask", target := "end" }] } },
  { tier := .tenant
    graph := { nodes := [{ id := "review", remove := true }] } },
  { tier := .single
    graph := { nodes := [{ id := "review", kind := some .escalation }] } }]

/-- The edge to the review that the tenant has taken away. -/
def toReview : Edge := { source := "ask", target := "review", guard := some "amount > 100" }

/-- The flow that the layers make together. -/
def reviewedFlow : Flow where
  id := "desk"
  version := 1
  entry := some "ask"
  nodes :=
    [.question "ask" "amount" "How much?", .terminal "end", { id := "review", kind := .escalation }]
  edges := [toReview, .always "ask" "end"]

theorem merge_secondReview : Layer.merge secondReview = .ok ⟨reviewedFlow, []⟩ := by
  cbv

/-- The edge to the end was declared after its ends were last taken away. -/
theorem secondReview_rooted :
    Layer.merge secondReview = .ok ⟨reviewedFlow, []⟩ ∧
      reviewedFlow.descend? [] = some reviewedFlow ∧
      Edge.always "ask" "end" ∈ reviewedFlow.edges ∧
      ¬ (Layer.declarationsAt secondReview []).IsGone (.node "ask") ∧
      ¬ (Layer.declarationsAt secondReview []).IsGone (.node "end") ∧
      (Layer.declarationsAt secondReview []).IsRooted (.always "ask" "end") ∧
      ¬ (Layer.declarationsAt secondReview []).ComesBack "ask" "ask->end" ∧
      ¬ (Layer.declarationsAt secondReview []).ComesBack "end" "ask->end" := by
  have hmem : Edge.always "ask" "end" ∈ reviewedFlow.edges := by simp [reviewedFlow]
  have hrooted : (Layer.declarationsAt secondReview []).IsRooted (.always "ask" "end") :=
    ⟨(Layer.declarationsAt secondReview []).take 4, "global", { source := "ask", target := "end" },
      (Layer.declarationsAt secondReview []).drop 5, rfl, rfl, rfl, by decide⟩
  have hroot : reviewedFlow.descend? [] = some reviewedFlow := rfl
  obtain ⟨hsource, htarget, hiff⟩ := Layer.merge_rooted_iff merge_secondReview hroot hmem
  exact ⟨merge_secondReview, hroot, hmem, hsource, htarget, hrooted, hiff.1 hrooted⟩

/-- The edge to the review was declared before the review was taken away, and never after. -/
theorem secondReview_unrooted :
    Layer.merge secondReview = .ok ⟨reviewedFlow, []⟩ ∧ toReview ∈ reviewedFlow.edges ∧
      ¬ (Layer.declarationsAt secondReview []).IsRooted toReview := by
  refine ⟨merge_secondReview, List.mem_cons_self, fun hrooted =>
    hrooted.not_comesBack (.inr rfl) ?_⟩
  exact ⟨(Layer.declarationsAt secondReview []).take 5,
    ("tenant", .node { id := "review", remove := true }), [],
      ("instance", .node { id := "review", kind := some .escalation }), [], rfl, ⟨rfl, rfl⟩,
        ⟨rfl, rfl⟩, by decide⟩

end Samples

end Parley

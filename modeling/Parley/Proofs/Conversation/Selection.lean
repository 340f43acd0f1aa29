import Parley.Proofs.Conversation.Warned
import Parley.Proofs.Guard.EdgeGuards

/-!
# Which edge is followed

From a node a conversation goes on along the first edge in order of declaration whose guard holds,
and along the else edge only if there is none.  This is said of the edges as a flow declares them,
with the texts of their guards.

* `Edge.IsOpen`: the guard of an edge holds, said of its text;
* `Flow.Selects`: an edge is the one to be followed from a node;
* `Flow.Selects.unique`: there is at most one such edge;
* `compileArea_selects_iff_choose`: its link is the one that is chosen;
* `Host.follows_selected`.
-/

namespace Parley

/-! ### What a flow says -/

/-- The guard of an edge is missing or blank, or it is an expression that is true. -/
def Edge.IsOpen (registry : Guard.Registry) (env : Guard.Environment) (e : Edge) : Prop :=
  ∀ text ∈ e.guard, Text.isBlankText text = true ∨
    ∃ x, Guard.parseExpr (Text.trim text) = .ok x ∧ x.eval registry env = .ok true

/-- An edge leads from a node and is not for invalid answers. -/
def Edge.LeadsFrom (id : NodeId) (e : Edge) : Prop := e.source = id ∧ e.onInvalid = false

/-- The edge at a place is to be followed from a node: it is the first one that is open, or the else
edge if none is. -/
structure Flow.Selects (d : Flow) (registry : Guard.Registry) (env : Guard.Environment)
    (id : NodeId) (place : ℕ)
    (e : Edge) : Prop where
  edge : d.edges[place]? = some e
  leads : e.LeadsFrom id
  first :
      (e.IsOpen registry env ∧ ∀ b ∈ d.edges.take place, b.LeadsFrom id → ¬ b.IsOpen registry env) ∨
    (e.isFallback = true ∧ ∀ b ∈ d.edges, b.LeadsFrom id → ¬ b.IsOpen registry env)

/-- The move along an edge. -/
def Edge.move (e : Edge) : Move := if e.exits then .leave else .goto e.target

variable {registry : Guard.Registry} {env : Guard.Environment} {e : Edge} {g : Guard.EdgeGuard}

/-! ### Guards and their texts -/

theorem Edge.isFallback_iff :
    e.isFallback = true ↔ ∃ text, e.guard = some text ∧
      (Text.trim text).map Char.toLower = fallbackGuard := by
  simp [isFallback, Option.any_eq_true]

/-- The else edge is not open. -/
theorem Edge.IsOpen.isFallback_eq_false (h : e.IsOpen registry env) : e.isFallback = false := by
  rw [← Bool.not_eq_true, isFallback_iff]
  rintro ⟨text, htext, hword⟩
  rcases h text htext with hblank | ⟨x, hx, -⟩
  · rw [Text.trim_eq_empty_iff.2 hblank] at hword
    exact absurd hword (by cbv)
  · exact Guard.parseExpr_fallback hword x hx

theorem holds_eq_true_iff {x : Except Guard.Error Bool} : holds x = true ↔ x = .ok true := by
  cases x with
  | ok b => simp [holds]
  | error err => simp [holds]

/-- What is read of a guard is the fallback just when the edge is the else edge. -/
theorem Edge.isOtherwise_iff_isFallback (h : Guard.parseEdgeGuard e.guard = .ok g) :
    g.isOtherwise = true ↔ e.isFallback = true := by
  rcases Guard.parseEdgeGuard_cases h with
    ⟨rfl, hblank⟩ | ⟨rfl, hword⟩ | ⟨text, x, htext, -, hx, rfl⟩
  · have hopen : e.IsOpen [] ⟨fun _ => none, fun _ => none⟩ :=
      fun text htext => .inl (hblank text htext)
    exact iff_of_false nofun (by simp [hopen.isFallback_eq_false])
  · exact iff_of_true rfl (isFallback_iff.2 hword)
  · refine iff_of_false nofun fun hfallback => ?_
    obtain ⟨text', htext', hword⟩ := isFallback_iff.1 hfallback
    cases htext.symm.trans htext'
    exact Guard.parseExpr_fallback hword x hx

/-- What is read of a guard holds just when the edge is open. -/
theorem Edge.holds_iff_isOpen (h : Guard.parseEdgeGuard e.guard = .ok g) :
    holds (g.eval registry env) = true ↔ e.IsOpen registry env := by
  rcases Guard.parseEdgeGuard_cases h with
    ⟨rfl, hblank⟩ | ⟨rfl, hword⟩ | ⟨text, x, htext, hblank, hx, rfl⟩
  · exact iff_of_true rfl fun text htext => .inl (hblank text htext)
  · refine iff_of_false nofun fun hopen => ?_
    have hfallback := isFallback_iff.2 hword
    rw [hopen.isFallback_eq_false] at hfallback
    cases hfallback
  · rw [holds_eq_true_iff, IsOpen, htext]
    simp [hblank, hx, Guard.EdgeGuard.eval]

section Links

variable {host : Host} {known : List ScopeId} {scope : ScopeId} {d : Flow} {a : Area}
    {id : NodeId} {place : ℕ}
  {l : Link}

theorem Link.IsOf.parseEdgeGuard (h : l.IsOf host e) :
    Guard.parseEdgeGuard e.guard = .ok l.guard := by
  obtain ⟨g, hparse, hcheck⟩ := bind_eq_ok.1 h.guard
  obtain ⟨-, -, hg⟩ := bind_eq_ok.1 hcheck
  rwa [← pure_eq_ok.1 hg]

/-- A link holds just when its edge is open. -/
theorem Link.IsOf.holds_iff (h : l.IsOf host e) :
    holds (l.guard.eval registry env) = true ↔ e.IsOpen registry env :=
  Edge.holds_iff_isOpen h.parseEdgeGuard

/-- A link is the fallback just when its edge is the else edge. -/
theorem Link.IsOf.isOtherwise_iff (h : l.IsOf host e) :
    l.guard.isOtherwise = true ↔ e.isFallback = true :=
  Edge.isOtherwise_iff_isFallback h.parseEdgeGuard

/-- A link is followed as its edge says. -/
theorem Link.IsOf.ofLink_eq_move (h : l.IsOf host e) : Move.ofLink (some l) = e.move := by
  rw [Edge.move, Move.ofLink, h.target]
  cases e.exits <;> rfl

/-! ### Edges and links of a scope -/

/-- An edge that is not for invalid answers has its link. -/
theorem compileArea_exists_link (h : compileArea host known scope d = .ok a)
    (he : d.edges[place]? = some e) (hleads : e.LeadsFrom id) :
    ∃ l ∈ a.outgoing id, l.IsAt host (e, place) := by
  have hplace : (e, place) ∈ d.edges.zipIdx.filter (!·.1.onInvalid) := by
    rw [List.mem_filter, List.mem_zipIdx_iff_getElem?]
    exact ⟨he, by simp [hleads.2]⟩
  obtain ⟨l, hl, hat⟩ := exists_of_forall₂_right (compileArea_links_places h).flip hplace
  exact ⟨l, Area.mem_outgoing.2 ⟨hl, hat.source.trans hleads.1⟩, hat⟩

/-- A link from a node has its edge. -/
theorem compileArea_exists_edge (h : compileArea host known scope d = .ok a)
    (hl : l ∈ a.outgoing id) :
    ∃ e, d.edges[l.index]? = some e ∧ e.LeadsFrom id ∧ l.IsAt host (e, l.index) := by
  obtain ⟨hmem, hsource⟩ := Area.mem_outgoing.1 hl
  obtain ⟨e, he, hat⟩ := compileArea_exists_isAt h hmem
  exact ⟨e, he, ⟨hat.source.symm.trans hsource, hat.valid⟩, hat⟩

/-- No scope has two else edges at a node. -/
theorem compileArea_else_unique (h : compileArea host known scope d = .ok a)
    {place' : ℕ} {e' : Edge} (he : d.edges[place]? = some e) (he' : d.edges[place']? = some e')
    (hleads : e.LeadsFrom id) (hleads' : e'.LeadsFrom id) (helse : e.isFallback = true)
    (helse' : e'.isFallback = true) : place = place' := by
  have hclash : ∀ {i j : ℕ} {b c : Edge}, d.edges[i]? = some b → d.edges[j]? = some c →
      b.LeadsFrom id →
      c.LeadsFrom id → b.isFallback = true → c.isFallback = true → ¬ i < j := by
    intro i j b c hb hc hfrom hfrom' hfallback hfallback' hlt
    have hisElse : ∀ {k : ℕ} {x : Edge}, d.edges[k]? = some x → x.LeadsFrom id →
        x.isFallback = true →
        x.IsElse host := by
      intro k x hx hfrom hfallback
      obtain ⟨l, -, hat⟩ := compileArea_exists_link h hx hfrom
      have hguard := Guard.EdgeGuard.isOtherwise_iff.1 (hat.isOtherwise_iff.2 hfallback)
      exact ⟨hfrom.2, hguard ▸ hat.guard⟩
    obtain ⟨hi, hb'⟩ := List.getElem?_eq_some_iff.1 hb
    obtain ⟨hj, hc'⟩ := List.getElem?_eq_some_iff.1 hc
    have hapart := List.pairwise_iff_getElem.1 (exists_compileArea_iff.1 ⟨a, h⟩).apart i j hi hj hlt
    rw [hb', hc'] at hapart
    exact hapart
      ⟨hfrom.1.trans hfrom'.1.symm, .inr ⟨hisElse hb hfrom hfallback, hisElse hc hfrom' hfallback'⟩⟩
  exact le_antisymm (not_lt.1 (hclash he' he hleads' hleads helse' helse))
    (not_lt.1 (hclash he he' hleads hleads' helse helse'))

theorem Flow.Selects.mem (h : d.Selects registry env id place e) : e ∈ d.edges :=
  List.mem_of_getElem? h.edge

/-- No edge behind an open one is selected. -/
theorem Flow.Selects.le_of_isOpen {place' : ℕ} {e' : Edge} (h : d.Selects registry env id place e)
    (hopen : e.IsOpen registry env) (h' : d.Selects registry env id place' e') :
    place' ≤ place := by
  rw [← not_lt]
  intro hlt
  rcases h'.first with ⟨-, hbefore⟩ | ⟨-, hnone⟩
  · refine hbefore e ?_ h.leads hopen
    exact List.mem_of_getElem? ((List.getElem?_take_of_lt hlt).trans h.edge)
  · exact hnone e h.mem h.leads hopen

/-- At most one edge is selected. -/
theorem Flow.Selects.unique (h : compileArea host known scope d = .ok a) {place' : ℕ} {e' : Edge}
    (hsel : d.Selects registry env id place e) (hsel' : d.Selects registry env id place' e') :
    place = place' ∧ e = e' := by
  suffices hplace : place = place' by
    subst hplace
    exact ⟨rfl, Option.some.inj (hsel.edge.symm.trans hsel'.edge)⟩
  rcases hsel.first with ⟨hopen, -⟩ | ⟨helse, hnone⟩ <;> rcases hsel'.first with
    ⟨hopen', -⟩ | ⟨helse', hnone'⟩
  · exact le_antisymm (hsel'.le_of_isOpen hopen' hsel) (hsel.le_of_isOpen hopen hsel')
  · exact absurd hopen (hnone' e hsel.mem hsel.leads)
  · exact absurd hopen' (hnone e' hsel'.mem hsel'.leads)
  · exact compileArea_else_unique h hsel.edge hsel'.edge hsel.leads hsel'.leads helse helse'

/-! ### The link that is chosen -/

/-- The edge of the chosen link is selected. -/
theorem compileArea_selects_of_choose (h : compileArea host known scope d = .ok a)
    (hchoose : a.choose id registry env = some l) :
    ∃ e, d.Selects registry env id l.index e ∧ l.IsOf host e := by
  obtain ⟨e, he, hleads, hat⟩ := compileArea_exists_edge h (Area.mem_outgoing_of_choose hchoose)
  refine ⟨e, ⟨he, hleads, ?_⟩, hat.toIsOf⟩
  -- an edge that is open has a link that holds
  have hopen : ∀ {b : Edge} {k : ℕ}, d.edges[k]? = some b → b.LeadsFrom id → b.IsOpen registry env →
      ∃ l' ∈ a.outgoing id, l'.index = k ∧ holds (l'.guard.eval registry env) = true := by
    intro b k hb hfrom hopen
    obtain ⟨l', hl', hat'⟩ := compileArea_exists_link h hb hfrom
    exact ⟨l', hl', hat'.index, hat'.holds_iff.2 hopen⟩
  have hchosen := hchoose
  unfold Area.choose at hchosen
  rcases Option.or_eq_some_iff.1 hchosen with hfind | ⟨hnone, hfind⟩
  · refine .inl ⟨hat.holds_iff.1
      (List.find?_some (p := fun l : Link => holds (l.guard.eval registry env)) hfind), ?_⟩
    intro b hb hfrom hb'
    obtain ⟨k, hk⟩ := List.mem_iff_getElem?.1 hb
    have hlt : k < l.index := (List.getElem?_eq_some_iff.1 hk).1.trans_le (List.length_take_le _ _)
    rw [List.getElem?_take_of_lt hlt] at hk
    obtain ⟨l', hl', rfl, hholds⟩ := hopen hk hfrom hb'
    exact Area.not_lt_of_choose (compileArea_links_increasing h) hchoose hl' hholds hlt
  · refine .inr
      ⟨hat.isOtherwise_iff.1 (List.find?_some (p := fun l : Link => l.guard.isOtherwise) hfind), ?_⟩
    intro b hb hfrom hb'
    obtain ⟨k, hk⟩ := List.mem_iff_getElem?.1 hb
    obtain ⟨l', hl', -, hholds⟩ := hopen hk hfrom hb'
    exact List.find?_eq_none.1 hnone l' hl' hholds

/-- A selected edge has the chosen link. -/
theorem compileArea_choose_of_selects (h : compileArea host known scope d = .ok a)
    (hsel : d.Selects registry env id place e) :
    ∃ l, a.choose id registry env = some l ∧ l.index = place ∧ l.IsOf host e := by
  obtain ⟨k, hk, hat⟩ := compileArea_exists_link h hsel.edge hsel.leads
  have hsome : (a.choose id registry env).isSome = true := by
    unfold Area.choose
    rw [Option.isSome_or, Bool.or_eq_true, List.find?_isSome, List.find?_isSome]
    rcases hsel.first with ⟨hopen, -⟩ | ⟨helse, -⟩
    · exact .inl ⟨k, hk, hat.holds_iff.2 hopen⟩
    · exact .inr ⟨k, hk, hat.isOtherwise_iff.2 helse⟩
  obtain ⟨l, hl⟩ := Option.isSome_iff_exists.1 hsome
  obtain ⟨e', hsel', hof⟩ := compileArea_selects_of_choose h hl
  obtain ⟨hplace, rfl⟩ := hsel'.unique h hsel
  exact ⟨l, hl, hplace, hof⟩

/-- **The selected edge is the one whose link is chosen.** -/
theorem compileArea_selects_iff_choose (h : compileArea host known scope d = .ok a) :
    d.Selects registry env id place e ↔
      d.edges[place]? = some e ∧ ∃ l, a.choose id registry env = some l ∧ l.index = place := by
  constructor
  · intro hsel
    obtain ⟨l, hl, hplace, -⟩ := compileArea_choose_of_selects h hsel
    exact ⟨hsel.edge, l, hl, hplace⟩
  · rintro ⟨he, l, hl, rfl⟩
    obtain ⟨e', hsel, -⟩ := compileArea_selects_of_choose h hl
    cases hsel.edge.symm.trans he
    exact hsel

/-- The move along the chosen link is the one along the selected edge. -/
theorem compileArea_ofLink_choose (h : compileArea host known scope d = .ok a)
    (hsel : d.Selects registry env id place e) : .ofLink (a.choose id registry env) = e.move := by
  obtain ⟨l, hl, -, hof⟩ := compileArea_choose_of_selects h hsel
  rw [hl, hof.ofLink_eq_move]

end Links

/-- An else edge is selected only where no edge is open. -/
theorem Flow.Selects.not_isOpen {d : Flow} {id : NodeId} {place : ℕ}
    (h : d.Selects registry env id place e) (helse : e.isFallback = true) {b : Edge}
    (hb : b ∈ d.edges) (hleads : b.LeadsFrom id) :
    ¬ b.IsOpen registry env := by
  rcases h.first with ⟨hopen, -⟩ | ⟨-, hnone⟩
  · rw [hopen.isFallback_eq_false] at helse
    cases helse
  · exact hnone b hb hleads

/-! ### What a conversation follows -/

section Walks

variable {host : Host} {f : Flow} {g : Graph} {w : Walker} {area : Area} {s : Step}

/-- A node is left along the link that is chosen, if it is left at all. -/
theorem Walker.onward_of_leaves {m : Move} (hm : m = .leave ∨ ∃ n, m = .goto n)
    (h : w.decide g area s = m) :
    w.onward g area s = m := by
  rcases decide_cases g w area s with honward | ⟨-, -, hruns⟩
  · exact honward.symm.trans h
  · -- a node that is run and does not go on is not left
    rw [h] at hruns
    rcases hm with rfl | ⟨n, rfl⟩ <;> cases hruns

/-- **The first open edge is followed, and the else edge only where none is open.**  In each scope
of a compiled flow, whatever the answers and the context are, the link that is chosen at a node is
that of the selected edge.  A walk that goes on from a node, to another node or out of the scope,
does so along the selected edge; and where an else edge is selected, no other edge from the node is
open, be it declared before or behind it. -/
theorem Host.follows_selected (hg : host.compile f = .ok g) :
    List.Forall₂ (fun p a => a.id = p.1 ∧ ∀ id env place e,
      (p.2.Selects g.predicates env id place e ↔
        p.2.edges[place]? = some e ∧ ∃ l, a.choose id g.predicates env = some l ∧ l.index = place) ∧
      (p.2.Selects g.predicates env id place e → .ofLink (a.choose id g.predicates env) = e.move ∧
        (e.isFallback = true → ∀ b ∈ p.2.edges, b.LeadsFrom id → ¬ b.IsOpen g.predicates env)))
      f.scopes g.areas ∧
    ∀ (w : Walker) area s, Walker.look g w.conversation = .ok (area, s) →
      ∃ d, (w.conversation.scope, d) ∈ f.scopes ∧ ∀ m, (m = .leave ∨ ∃ n, m = .goto n) →
        w.decide g area s = m →
        ∃ place e, d.Selects g.predicates w.conversation.environment s.id place e ∧ e.move = m := by
  constructor
  · refine (Host.compile_eq_ok hg).2.2.imp ?_
    intro p a hpa
    refine ⟨(compileArea_eq_ok hpa).1, fun id env place e =>
      ⟨compileArea_selects_iff_choose hpa, fun hsel => ?_⟩⟩
    exact ⟨compileArea_ofLink_choose hpa hsel, fun helse _ => hsel.not_isOpen helse⟩
  · intro w area s hlook
    obtain ⟨d, known, hscope, hd⟩ := Walker.exists_compileArea_of_look hg hlook
    refine ⟨d, hscope, fun m hm hdecide => ?_⟩
    have honward := Walker.onward_of_leaves hm hdecide
    rw [Walker.onward] at honward
    cases hchoose : area.choose s.id g.predicates w.conversation.environment with
    | none =>
      -- without a link the node is not left
      rw [hchoose, Move.ofLink] at honward
      rcases hm with rfl | ⟨n, rfl⟩ <;> cases honward
    | some l =>
      obtain ⟨e, hsel, hof⟩ := compileArea_selects_of_choose hd hchoose
      rw [hchoose, hof.ofLink_eq_move] at honward
      exact ⟨l.index, e, hsel, honward⟩

end Walks

namespace Samples

/-- A question and two ends, the end for all other answers declared first. -/
def plans : Flow where
  id := "plans"
  version := 1
  nodes := [.question "ask" "plan" "Which plan do you have?", .terminal "free", .terminal "paid"]
  edges := [.otherwise "ask" "free", .guarded "ask" "paid" "plan == 'pro'"]

theorem compile_plans : ∃ g, Host.builtin.compile plans = .ok g :=
  exists_of_isOk (by decide +kernel)

/-- A plan as the answer. -/
def planEnvironment (plan : String) : Guard.Environment where
  answer := Dict.get? [("plan", .string plan)]
  context := Dict.get? []

theorem parseExpr_plan :
    Guard.parseExpr "plan == 'pro'" =
      .ok (.compare (.answer "plan") .eq (.value (.string "pro"))) := by
  have hplan : Guard.Derives .expression 64 [.name "plan", .compare .eq, .text "pro"] _ :=
    .conjunction (.unary (.atom (.compare .eq (.answer (by decide)) (.text "pro"))))
  exact Guard.parseExpr_of_derives (by decide +kernel) (by decide +kernel) (by decide) hplan

/-- The second edge is open for the plan `pro` only. -/
theorem paid_isOpen_iff {registry : Guard.Registry} {plan : String} :
    (Edge.guarded "ask" "paid" "plan == 'pro'").IsOpen registry (planEnvironment plan) ↔
      plan = "pro" := by
  have htrim : Text.trim "plan == 'pro'" = "plan == 'pro'" := by decide
  have hblank : Text.isBlankText "plan == 'pro'" = false := by decide
  have heval : (Guard.Expr.compare (.answer "plan") .eq (.value (.string "pro"))).eval registry
      (planEnvironment plan) = .ok (plan == "pro") := rfl
  simp [Edge.IsOpen, Edge.guarded, htrim, hblank, parseExpr_plan, heval]

/-- The first edge is never open. -/
theorem free_not_isOpen {registry : Guard.Registry} {env : Guard.Environment} :
    ¬ (Edge.otherwise "ask" "free").IsOpen registry env := by
  intro hopen
  have hfallback : (Edge.otherwise "ask" "free").isFallback = true := by cbv
  rw [hopen.isFallback_eq_false] at hfallback
  cases hfallback

theorem plans_selects_paid {registry : Guard.Registry} :
    plans.Selects registry (planEnvironment "pro") "ask" 1
      (.guarded "ask" "paid" "plan == 'pro'") :=
  ⟨rfl, ⟨rfl, rfl⟩,
    .inl ⟨paid_isOpen_iff.2 rfl, List.forall_mem_singleton.2 fun _ => free_not_isOpen⟩⟩

theorem plans_selects_free {registry : Guard.Registry} :
    plans.Selects registry (planEnvironment "basic") "ask" 0 (.otherwise "ask" "free") :=
  ⟨rfl, ⟨rfl, rfl⟩, .inr ⟨by cbv, List.forall_mem_cons.2 ⟨fun _ => free_not_isOpen,
    List.forall_mem_singleton.2 fun _ hopen => absurd (paid_isOpen_iff.1 hopen) (by decide)⟩⟩⟩

/-- The answer `pro` leads along the second edge, and another one along the first. -/
theorem plans_selected :
    ∃ g a, Host.builtin.compile plans = .ok g ∧ g.areas = [a] ∧
      .ofLink (a.choose "ask" g.predicates (planEnvironment "pro")) = Move.goto "paid" ∧
      .ofLink (a.choose "ask" g.predicates (planEnvironment "basic")) = Move.goto "free" := by
  obtain ⟨g, hg⟩ := compile_plans
  have hscopes : plans.scopes = [(.root, plans)] := by cbv
  have hpairs := (Host.follows_selected hg).1
  rw [hscopes, List.forall₂_cons_left_iff] at hpairs
  obtain ⟨a, areas, ⟨-, hselects⟩, hrest, hareas⟩ := hpairs
  rw [List.forall₂_nil_left_iff] at hrest
  subst hrest
  exact ⟨g, a, hg, hareas, ((hselects _ _ _ _).2 plans_selects_paid).1,
    ((hselects _ _ _ _).2 plans_selects_free).1⟩

end Samples

end Parley

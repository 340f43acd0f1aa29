import Parley.Proofs.Graph.Compiled
import Parley.Proofs.Graph.Cycle
import Parley.Table

/-!
# Which flows compile

A flow compiles just when each of its scopes is in order and no scope enters itself, re-entrant
nodes aside.  What it is for a scope to be in order is said of its nodes and edges as they are
written, without the compiler.

* `ScopeId.Means`: what a name stands for in a scope;
* `Node.IsWellFormed`, `Edge.IsWellFormed`, `Edge.Clashes`, `Flow.Follows`;
* `Flow.IsRegular`, `Flow.IsWellFormedAt`: one scope;
* `Flow.Calls`, `Flow.IsWellFormed`: a flow with all its scopes;
* `Host.compiles_iff_isWellFormed`.
-/

namespace Parley

open Relation (TransGen)

/-! ### Well-formed flows -/

/-- In a scope a name stands for the scope of this name that is declared nearest, looking
outward. -/
def ScopeId.Means (known : List ScopeId) (scope : ScopeId) (name : String) (target : ScopeId) :
    Prop :=
  ∃ inner around outer, scope.outward = inner ++ around :: outer ∧
    (∀ s ∈ inner, s.child name ∉ known) ∧
    around.child name = target ∧ target ∈ known

/-- The names of scopes that a node uses. -/
def Node.references (n : Node) : List String := n.subgraph.toList ++ n.paths

/-- What a node must be by itself. -/
structure Node.IsWellFormed (host : Host) (known : List ScopeId) (scope : ScopeId) (n : Node) :
    Prop where
  id : Text.isBlankText n.id = false
  id_ne : n.id ≠ exitTarget
  key : n.kind = .question → n.key ≠ none
  subgraph : n.kind = .subgraphRef → (n.subgraph ≠ none ↔ n.paths = [])
  guards : ∀ text ∈ n.guardTexts, ∃ e, Guard.compileExpr host.predicates text = .ok e
  validator : ∀ spec, n.validator = some spec → ∃ v, host.rules.compile spec = .ok v
  references : ∀ name ∈ n.references, ∃ target, scope.Means known name target

/-- What an edge must be by itself, in a scope with these nodes. -/
structure Edge.IsWellFormed (host : Host) (scope : ScopeId) (ids : List NodeId) (e : Edge) :
    Prop where
  source : e.source ∈ ids
  invalid : e.onInvalid = true → e.target ∈ ids
  target : e.onInvalid = false → e.target ∈ ids ∨ e.target = exitTarget ∧ scope ≠ .root
  guard : e.onInvalid = false → ∃ g, Guard.compileEdgeGuard host.predicates e.guard = .ok g

/-- An edge that is followed when no other can be. -/
def Edge.IsElse (host : Host) (e : Edge) : Prop :=
  e.onInvalid = false ∧ Guard.compileEdgeGuard host.predicates e.guard = .ok .otherwise

/-- Two edges that a node may not both have. -/
def Edge.Clashes (host : Host) (e e' : Edge) : Prop :=
  e.source = e'.source ∧ (e.onInvalid = true ∧ e'.onInvalid = true ∨ e.IsElse host ∧ e'.IsElse host)

namespace Flow

/-- A node that is not re-entrant follows another one along an edge that is not re-entrant. -/
def Follows (d : Flow) (a b : NodeId) : Prop :=
  ∃ e ∈ d.edges, e.onInvalid = false ∧ e.reentrant = false ∧ e.source = a ∧ e.target = b ∧
    ∃ n ∈ d.nodes, n.id = b ∧ n.reentrant = false

/-- The nodes and edges of a scope are in order, each by itself and none against another. -/
structure IsRegular (host : Host) (known : List ScopeId) (scope : ScopeId) (d : Flow) : Prop where
  nodes_ne : d.nodes ≠ []
  names : ∀ name ∈ Dict.keys d.subgraphs, Text.isBlankText name = false ∧ '/' ∉ name.toList
  nodes : ∀ n ∈ d.nodes, n.IsWellFormed host known scope
  ids : (d.nodes.map Node.id).Nodup
  keys : (d.nodes.filterMap Node.key).Nodup
  entry : ∀ id, d.entry = some id → id ∈ d.nodes.map Node.id
  edges : ∀ e ∈ d.edges, e.IsWellFormed host scope (d.nodes.map Node.id)
  apart : d.edges.Pairwise fun e e' => ¬ e.Clashes host e'

/-- A scope is in order, its nodes do not go round in circles, and from each of them one can get
on. -/
structure IsWellFormedAt (host : Host) (known : List ScopeId) (scope : ScopeId) (d : Flow) : Prop
    extends d.IsRegular host known scope where
  acyclic : ∀ id, ¬ TransGen d.Follows id id
  onward : ∀ n ∈ d.nodes, n.kind.isFinal = false → ∃ e ∈ d.edges, e.onInvalid = false ∧
      e.source = n.id ∧
    ∃ g, Guard.compileEdgeGuard host.predicates e.guard = .ok g ∧ g.isFallback = true

/-- The addresses of the scopes of a flow. -/
def scopeIds (f : Flow) : List ScopeId := f.scopes.map (·.1)

/-- A node of a scope, not a re-entrant one, enters another scope. -/
def Calls (f : Flow) (s t : ScopeId) : Prop :=
  ∃ d, Table.get? f.scopes s = some d ∧ ∃ n ∈ d.nodes, n.reentrant = false ∧
    ∃ name ∈ n.references, s.Means f.scopeIds name t

/-- All scopes of a flow are in order, and none enters itself. -/
structure IsWellFormed (host : Host) (f : Flow) : Prop where
  id : Text.isBlankText f.id = false
  scopes : ∀ p ∈ f.scopes, p.2.IsWellFormedAt host f.scopeIds p.1
  acyclic : ∀ s, ¬ TransGen f.Calls s s

end Flow

variable {host : Host} {known : List ScopeId} {scope : ScopeId}

/-! ### Nodes -/

theorem resolveSubgraph_eq_some {name : String} {target : ScopeId} :
    resolveSubgraph known scope name = some target ↔ scope.Means known name target := by
  unfold resolveSubgraph
  rw [List.find?_map, Option.map_eq_some_iff]
  constructor
  · rintro ⟨around, hfound, rfl⟩
    obtain ⟨hknown, inner, outer, hsplit, hinner⟩ := List.find?_eq_some_iff_append.1 hfound
    exact ⟨inner, around, outer, hsplit, fun s hs => by simpa using hinner s hs, rfl, by
      simpa using hknown⟩
  · rintro ⟨inner, around, outer, hsplit, hinner, rfl, hknown⟩
    exact ⟨around, List.find?_eq_some_iff_append.2
      ⟨by simpa using hknown, inner, outer, hsplit, fun s hs => by simpa using hinner s hs⟩, rfl⟩

theorem compileReference_eq_ok {n : Node} {name : String} {target : ScopeId} :
    compileReference known scope n name = .ok target ↔ scope.Means known name target := by
  rw [← resolveSubgraph_eq_some, compileReference]
  cases resolveSubgraph known scope name <;> simp

theorem exists_checkNodeForm_iff {n : Node} : (∃ u, checkNodeForm scope n = .ok u) ↔
    Text.isBlankText n.id = false ∧ n.id ≠ exitTarget ∧ (n.kind = .question → n.key ≠ none) ∧
      (n.kind = .subgraphRef → (n.subgraph ≠ none ↔ n.paths = [])) := by
  unfold checkNodeForm
  by_cases hblank : Text.isBlankText n.id = true
  · rw [if_pos hblank]
    exact iff_of_false nofun fun h => absurd (hblank.symm.trans h.1) nofun
  by_cases hexit : n.id = exitTarget
  · rw [if_neg hblank, if_pos hexit]
    exact iff_of_false nofun fun h => h.2.1 hexit
  rw [if_neg hblank, if_neg hexit]
  cases n.kind <;> cases n.key <;> cases n.subgraph <;> cases n.paths <;> simp [hblank, hexit]

theorem exists_compileClauses_iff {n : Node} : (∃ cs, compileClauses host scope n = .ok cs) ↔
    ∀ text ∈ n.guardTexts, ∃ e, Guard.compileExpr host.predicates text = .ok e := by
  simp only [compileClauses, exists_bind_iff, pure_eq_ok, exists_eq', and_true, exists_mapM_iff,
    mapError_eq_ok]

theorem exists_compileValidator_iff {n : Node} : (∃ v, compileValidator host scope n = .ok v) ↔
    ∀ spec, n.validator = some spec → ∃ v, host.rules.compile spec = .ok v := by
  unfold compileValidator
  cases n.validator with
  | none => simp
  | some spec => cases h : host.rules.compile spec <;> simp [h]

theorem exists_compileNode_iff {n : Node} :
    (∃ s, compileNode host known scope n = .ok s) ↔ n.IsWellFormed host known scope := by
  simp only [compileNode, exists_bind_iff, pure_eq_ok, exists_eq', and_true, exists_and_right,
    exists_mapM_iff, exists_option_mapM_iff, exists_compileClauses_iff, exists_compileValidator_iff,
    compileReference_eq_ok, exists_checkNodeForm_iff]
  constructor
  · rintro ⟨⟨hid, hexit, hkey, hform⟩, hguards, hvalidator, hsubgraph, hpaths⟩
    exact ⟨hid, hexit, hkey, hform, hguards, hvalidator,
      List.forall_mem_append.2 ⟨hsubgraph, hpaths⟩⟩
  · rintro ⟨hid, hexit, hkey, hform, hguards, hvalidator, hreferences⟩
    obtain ⟨hsubgraph, hpaths⟩ := List.forall_mem_append.1 hreferences
    exact ⟨⟨hid, hexit, hkey, hform⟩, hguards, hvalidator, hsubgraph, hpaths⟩

/-- The scopes that a compiled node enters are those that its names stand for. -/
theorem compileNode_mem_targets {n : Node} {s : Step} (h : compileNode host known scope n = .ok s)
    {target : ScopeId} : target ∈ s.targets ↔
      ∃ name ∈ n.references, scope.Means known name target := by
  obtain ⟨-, hsubgraph, hpaths⟩ := compileNode_eq_ok h
  simp only [Step.targets, Node.references, List.mem_append, or_and_right, exists_or]
  refine or_congr ?_ ?_
  · rcases option_mapM_eq_ok.1 hsubgraph with ⟨hnone, hnone'⟩ | ⟨name, t, hsome, hname, hsome'⟩
    · simp [hnone, hnone']
    · rw [compileReference_eq_ok, ← resolveSubgraph_eq_some] at hname
      simp [hsome, hsome', ← resolveSubgraph_eq_some, hname, eq_comm]
  · rw [List.mem_map]
    constructor
    · rintro ⟨p, hp, rfl⟩
      obtain ⟨name, hname, -, hmeans⟩ := exists_of_forall₂_right hpaths hp
      exact ⟨name, hname, compileReference_eq_ok.1 hmeans⟩
    · rintro ⟨name, hname, hmeans⟩
      obtain ⟨p, hp, -, hp'⟩ := exists_of_forall₂_right hpaths.flip hname
      rw [compileReference_eq_ok.2 hmeans, Except.ok.injEq] at hp'
      exact ⟨p, hp, hp'.symm⟩

/-- Nodes of which no two have the same id or the same answer key. -/
def AreDistinct (ns : List Node) : Prop := (ns.map Node.id).Nodup ∧ (ns.filterMap Node.key).Nodup

theorem areDistinct_concat {ns : List Node} {n : Node} : AreDistinct (ns ++ [n]) ↔
    AreDistinct ns ∧ n.id ∉ ns.map Node.id ∧ ∀ key, n.key = some key →
      key ∉ ns.filterMap Node.key := by
  cases h : n.key <;> simp [AreDistinct, List.nodup_append, h] <;> grind

theorem AreDistinct.left {ns ms : List Node} (h : AreDistinct (ns ++ ms)) : AreDistinct ns := by
  rw [AreDistinct, List.map_append, List.filterMap_append] at h
  exact ⟨h.1.of_append_left, h.2.of_append_left⟩

theorem map_step_id (steps : List Step) :
    steps.map Step.id = (steps.map Step.node).map Node.id := by
  rw [List.map_map]
  rfl

theorem compileNodes_cons {n : Node} {r : List Node} {done steps : List Step} :
    compileNodes host known scope done (n :: r) = .ok steps ↔
      ∃ s, compileNode host known scope n = .ok s ∧
      n.id ∉ done.map Step.id ∧
      (∀ key, n.key = some key → key ∉ (done.map Step.node).filterMap Node.key) ∧
      compileNodes host known scope (done ++ [s]) r = .ok steps := by
  rw [compileNodes, bind_eq_ok]
  refine exists_congr fun s => and_congr_right fun _ => ?_
  refine ite_throw_eq_ok.trans (and_congr (by simp) ?_)
  cases n.key with
  | none => simp
  | some key => exact ite_throw_eq_ok.trans (and_congr (by simp) Iff.rfl)

/-- Nodes compile after others just when each of them is well formed and no id and no answer key
repeats. -/
theorem exists_compileNodes_iff {done : List Step} {nodes : List Node}
    (hdone : AreDistinct (done.map Step.node)) :
    (∃ steps, compileNodes host known scope done nodes = .ok steps) ↔
      (∀ n ∈ nodes, n.IsWellFormed host known scope) ∧
      AreDistinct (done.map Step.node ++ nodes) := by
  induction nodes generalizing done with
  | nil => simp [compileNodes, hdone]
  | cons n r ih =>
    simp only [compileNodes_cons, map_step_id, List.forall_mem_cons]
    have hnext (s : Step) (hs : compileNode host known scope n = .ok s) :
        (done ++ [s]).map Step.node = done.map Step.node ++ [n] := by
      rw [List.map_append, List.map_singleton, (compileNode_eq_ok hs).1]
    constructor
    · rintro ⟨steps, s, hs, hid, hkey, hrest⟩
      have hdone' := areDistinct_concat.2 ⟨hdone, hid, hkey⟩
      rw [← hnext s hs] at hdone'
      obtain ⟨hall, hdistinct⟩ := (ih hdone').1 ⟨steps, hrest⟩
      rw [hnext s hs, ← List.append_cons] at hdistinct
      exact ⟨⟨exists_compileNode_iff.1 ⟨s, hs⟩, hall⟩, hdistinct⟩
    · rintro ⟨⟨hn, hall⟩, hdistinct⟩
      obtain ⟨s, hs⟩ := exists_compileNode_iff.2 hn
      rw [List.append_cons] at hdistinct
      obtain ⟨-, hid, hkey⟩ := areDistinct_concat.1 hdistinct.left
      have hdone' := hdistinct.left
      rw [← hnext s hs] at hdone' hdistinct
      obtain ⟨steps, hrest⟩ := (ih hdone').2 ⟨hall, hdistinct⟩
      exact ⟨steps, s, hs, hid, hkey, hrest⟩

theorem compileNodes_ids {nodes : List Node} {steps : List Step}
    (h : compileNodes host known scope [] nodes = .ok steps) :
    steps.map Step.id = nodes.map Node.id := by
  obtain ⟨new, hnew, hnodes⟩ := compileNodes_eq_ok h
  rw [List.nil_append] at hnew
  rw [hnew]
  exact map_eq_map_of_forall₂
    (hnodes.flip.imp fun s n hn => congrArg Node.id (compileNode_eq_ok hn).1)

/-! ### Edges -/

/-- What a link keeps of the edge that it comes from. -/
structure Link.IsOf (host : Host) (e : Edge) (l : Link) : Prop where
  source : l.source = e.source
  target : l.target = if e.exits then .exit else .node e.target
  guard : Guard.compileEdgeGuard host.predicates e.guard = .ok l.guard
  reentrant : l.reentrant = e.reentrant

/-- What has been read of edges. -/
structure Edges.AreOf (host : Host) (es : List Edge) (done : Edges) : Prop where
  links : List.Forall₂ (Link.IsOf host) (es.filter (!·.onInvalid)) done.links
  invalid : done.invalidTargets = (es.filter (·.onInvalid)).map fun e => (e.source, e.target)

theorem Edges.areOf_nil : Edges.AreOf host [] {} := ⟨.nil, rfl⟩

variable {ids : List NodeId} {done done' : Edges} {index : ℕ} {e : Edge} {passed : List Edge}

theorem compileTarget_eq_ok {target : Target} (h : compileTarget scope ids e = .ok target) :
    target = if e.exits then .exit else .node e.target := by
  unfold compileTarget at h
  split_ifs at h with hexits <;> cases h <;> simp [hexits]

theorem exists_compileTarget_iff (hids : exitTarget ∉ ids) :
    (∃ target, compileTarget scope ids e = .ok target) ↔
      e.target ∈ ids ∨ e.target = exitTarget ∧ scope ≠ .root := by
  unfold compileTarget
  by_cases hexits : e.target = exitTarget
  · by_cases hroot : scope = .root
    · simp [Edge.exits, hexits, hids, hroot, ScopeId.isRoot, ScopeId.root]
    · have hroot' : scope.isRoot = false := by
        rw [ScopeId.isRoot, decide_eq_false_iff_not]
        exact fun htext => hroot (congrArg ScopeId.mk htext)
      simp [Edge.exits, hexits, hids, hroot, hroot']
  · by_cases htarget : e.target ∈ ids <;> simp [Edge.exits, hexits, htarget]

theorem Edges.AreOf.invalid_any (h : Edges.AreOf host passed done) :
    (done.invalidTargets.any fun p => p.1 = e.source) = true ↔
      ∃ e' ∈ passed, e'.onInvalid = true ∧ e'.source = e.source := by
  simp [h.invalid]

theorem Guard.EdgeGuard.isOtherwise_iff {g : Guard.EdgeGuard} :
    g.isOtherwise = true ↔ g = .otherwise := by
  cases g <;> simp [Guard.EdgeGuard.isOtherwise]

theorem Edges.AreOf.otherwise_any (h : Edges.AreOf host passed done) :
    (done.links.any fun l => l.source = e.source && l.guard.isOtherwise) = true ↔
      ∃ e' ∈ passed, e'.IsElse host ∧ e'.source = e.source := by
  simp only [List.any_eq_true, Bool.and_eq_true, decide_eq_true_eq]
  constructor
  · rintro ⟨l, hl, hsource, hguard⟩
    obtain ⟨e', he', hof⟩ := exists_of_forall₂_right h.links hl
    obtain ⟨hmem, hvalid⟩ := List.mem_filter.1 he'
    rw [Guard.EdgeGuard.isOtherwise_iff] at hguard
    exact ⟨e', hmem, ⟨by simpa using hvalid, hguard ▸ hof.guard⟩, hof.source ▸ hsource⟩
  · rintro ⟨e', hmem, ⟨hvalid, hguard⟩, hsource⟩
    obtain ⟨l, hl, hof⟩ :=
      exists_of_forall₂_right h.links.flip (List.mem_filter.2 ⟨hmem, by simp [hvalid]⟩)
    have hsame := hof.guard.symm.trans hguard
    rw [Except.ok.injEq] at hsame
    exact ⟨l, hl, hof.source.trans hsource, Guard.EdgeGuard.isOtherwise_iff.2 hsame⟩

theorem exists_compileInvalidEdge_iff (hdone : Edges.AreOf host passed done)
    (he : e.onInvalid = true) :
    (∃ done', compileInvalidEdge scope ids done e = .ok done') ↔
      e.target ∈ ids ∧ ∀ e' ∈ passed, ¬ e'.Clashes host e := by
  have hclash (e' : Edge) : e'.Clashes host e ↔ e'.onInvalid = true ∧ e'.source = e.source := by
    simp [Edge.Clashes, Edge.IsElse, he, and_comm]
  have hany := hdone.invalid_any (e := e)
  unfold compileInvalidEdge
  by_cases htarget : e.target ∈ ids
  · rw [if_neg (not_not.2 htarget)]
    split_ifs with h
    · exact iff_of_false nofun fun hnone => by
        obtain ⟨e', he', hboth⟩ := hany.1 h
        exact hnone.2 e' he' ((hclash e').2 hboth)
    · exact iff_of_true ⟨_, rfl⟩
        ⟨htarget, fun e' he' hboth => h (hany.2 ⟨e', he', (hclash e').1 hboth⟩)⟩
  · simp [htarget]

theorem exists_compileLink_iff (hids : exitTarget ∉ ids) (hdone : Edges.AreOf host passed done)
    (he : e.onInvalid = false) : (∃ done', compileLink host scope ids done index e = .ok done') ↔
      (e.target ∈ ids ∨ e.target = exitTarget ∧ scope ≠ .root) ∧
        (∃ g, Guard.compileEdgeGuard host.predicates e.guard = .ok g) ∧ ∀ e' ∈ passed,
          ¬ e'.Clashes host e := by
  have hclash (e' : Edge) : e'.Clashes host e ↔ (e'.IsElse host ∧ e'.source = e.source) ∧
      Guard.compileEdgeGuard host.predicates e.guard = .ok .otherwise := by
    simp [Edge.Clashes, Edge.IsElse, he]
    tauto
  have hany := hdone.otherwise_any (e := e)
  simp only [compileLink, exists_bind_iff, mapError_eq_ok, exists_ite_throw_iff, exists_and_right,
    exists_compileTarget_iff hids, Bool.and_eq_true, hany, hclash, Guard.EdgeGuard.isOtherwise_iff]
  refine and_congr_right fun _ => ?_
  constructor
  · rintro ⟨g, hg, hnone⟩
    refine ⟨⟨g, hg⟩, ?_⟩
    rintro e' he' ⟨hboth, hg'⟩
    rw [hg, Except.ok.injEq] at hg'
    exact hnone ⟨hg', e', he', hboth⟩
  · rintro ⟨⟨g, hg⟩, hnone⟩
    refine ⟨g, hg, ?_⟩
    rintro ⟨rfl, e', he', hboth⟩
    exact hnone e' he' ⟨hboth, hg⟩

/-- An edge compiles after others just when it is well formed and clashes with none of them. -/
theorem exists_compileEdge_iff (hblank : "" ∉ ids) (hids : exitTarget ∉ ids)
    (hdone : Edges.AreOf host passed done) :
    (∃ done', compileEdge host scope ids done index e = .ok done') ↔
      e.IsWellFormed host scope ids ∧ ∀ e' ∈ passed, ¬ e'.Clashes host e := by
  have hends : e.IsWellFormed host scope ids → ¬ (e.source = "" ∨ e.target = "") := by
    rintro ⟨hsource, hinvalid, htarget, -⟩ (h | h)
    · exact hblank (h ▸ hsource)
    · cases he : e.onInvalid with
      | true => exact hblank (h ▸ hinvalid he)
      | false =>
        rcases htarget he with h' | ⟨h', -⟩
        · exact hblank (h ▸ h')
        · exact absurd (h.symm.trans h') (by decide)
  unfold compileEdge
  by_cases hmissing : e.source = "" ∨ e.target = ""
  · rw [if_pos hmissing]
    exact iff_of_false nofun fun h => hends h.1 hmissing
  by_cases hsource : e.source ∈ ids
  · rw [if_neg hmissing, if_neg (not_not.2 hsource)]
    cases he : e.onInvalid with
    | true =>
      refine (exists_compileInvalidEdge_iff hdone he).trans (and_congr_left fun _ => ?_)
      exact ⟨fun h => ⟨hsource, fun _ => h, by simp [he], by simp [he]⟩, fun h => h.invalid he⟩
    | false =>
      refine (exists_compileLink_iff hids hdone he).trans ?_
      rw [← and_assoc]
      refine and_congr_left fun _ => ?_
      exact ⟨fun h => ⟨hsource, by simp [he], fun _ => h.1, fun _ => h.2⟩,
        fun h => ⟨h.target he, h.guard he⟩⟩
  · rw [if_neg hmissing, if_pos hsource]
    exact iff_of_false nofun fun h => hsource h.1.source

theorem compileEdge_areOf (hdone : Edges.AreOf host passed done)
    (h : compileEdge host scope ids done index e = .ok done') :
    Edges.AreOf host (passed ++ [e]) done' := by
  unfold compileEdge at h
  split_ifs at h with _ _ he
  · unfold compileInvalidEdge at h
    split_ifs at h
    cases h
    exact ⟨by simpa [he] using hdone.links, by simp [he, hdone.invalid]⟩
  · unfold compileLink at h
    obtain ⟨target, htarget, h⟩ := bind_eq_ok.1 h
    obtain ⟨guard, hguard, h⟩ := bind_eq_ok.1 h
    split at h
    · cases h
    · rw [← pure_eq_ok.1 h]
      have hlink : Link.IsOf host e ⟨index, e.source, target, guard, e.reentrant⟩ :=
        ⟨rfl, compileTarget_eq_ok htarget, mapError_eq_ok.1 hguard, rfl⟩
      refine ⟨?_, by simpa [he] using hdone.invalid⟩
      simpa [he] using List.rel_append hdone.links (.cons hlink .nil)

/-- Edges compile after others just when each of them is well formed and no two clash. -/
theorem exists_compileEdges_iff (hblank : "" ∉ ids) (hids : exitTarget ∉ ids) {es : List Edge}
    (hdone : Edges.AreOf host passed done)
    (hapart : passed.Pairwise fun e e' => ¬ e.Clashes host e') :
    (∃ done', compileEdges host scope ids done index es = .ok done') ↔
      (∀ e ∈ es, e.IsWellFormed host scope ids) ∧ (passed ++ es).Pairwise fun e e' =>
        ¬ e.Clashes host e' := by
  induction es generalizing done index passed with
  | nil => simp [compileEdges, hapart]
  | cons e r ih =>
    rw [compileEdges, exists_bind_iff, List.forall_mem_cons, List.append_cons]
    constructor
    · rintro ⟨done', he, hrest⟩
      obtain ⟨hform, hclash⟩ := (exists_compileEdge_iff hblank hids hdone).1 ⟨done', he⟩
      have hapart' : (passed ++ [e]).Pairwise fun e e' => ¬ e.Clashes host e' :=
        List.pairwise_append.2 ⟨hapart, List.pairwise_singleton _ _, by simpa using hclash⟩
      obtain ⟨hall, hmore⟩ := (ih (compileEdge_areOf hdone he) hapart').1 hrest
      exact ⟨⟨hform, hall⟩, hmore⟩
    · rintro ⟨⟨hform, hall⟩, hmore⟩
      have hapart' := (List.pairwise_append.1 hmore).1
      have hclash : ∀ e' ∈ passed, ¬ e'.Clashes host e := by
        simpa using (List.pairwise_append.1 hapart').2.2
      obtain ⟨done', he⟩ : ∃ done', compileEdge host scope ids done index e = .ok done' :=
        (exists_compileEdge_iff hblank hids hdone).2 ⟨hform, hclash⟩
      exact ⟨done', he, (ih (compileEdge_areOf hdone he) hapart').2 ⟨hall, hmore⟩⟩

theorem compileEdges_areOf {es : List Edge} (hdone : Edges.AreOf host passed done)
    (h : compileEdges host scope ids done index es = .ok done') :
    Edges.AreOf host (passed ++ es) done' := by
  induction es generalizing done index passed with
  | nil =>
    cases h
    rwa [List.append_nil]
  | cons e r ih =>
    rw [compileEdges] at h
    obtain ⟨next, he, h⟩ := bind_eq_ok.1 h
    rw [List.append_cons]
    exact ih (compileEdge_areOf hdone he) h

/-! ### Scopes -/

variable {d : Flow} {a : Area}

theorem exists_compileEntry_iff (hne : d.nodes ≠ []) : (∃ id, compileEntry scope d = .ok id) ↔
    ∀ id, d.entry = some id → id ∈ d.nodes.map Node.id := by
  unfold compileEntry
  cases d.entry with
  | none =>
    cases h : d.nodes with
    | nil => exact absurd h hne
    | cons n r => simp
  | some entry => by_cases h : ∃ n ∈ d.nodes, n.id = entry <;> simp [h]

theorem isSubgraphName_iff {name : String} :
    isSubgraphName name = true ↔ Text.isBlankText name = false ∧ '/' ∉ name.toList := by
  simp [isSubgraphName]

/-- **A scope compiles just when its nodes and edges are in order.** -/
theorem exists_compileArea_iff :
    (∃ a, compileArea host known scope d = .ok a) ↔ d.IsRegular host known scope := by
  have hnone : AreDistinct (([] : List Step).map Step.node) := ⟨List.nodup_nil, List.nodup_nil⟩
  have hnames : (Dict.keys d.subgraphs).find? (fun name => !isSubgraphName name) = none ↔
      ∀ name ∈ Dict.keys d.subgraphs, Text.isBlankText name = false ∧ '/' ∉ name.toList := by
    simp [List.find?_eq_none, isSubgraphName_iff]
  have hids (h : ∀ n ∈ d.nodes, n.IsWellFormed host known scope) :
      "" ∉ d.nodes.map Node.id ∧ exitTarget ∉ d.nodes.map Node.id := by
    simp only [List.mem_map, not_exists, not_and]
    exact ⟨fun n hn hid => absurd ((h n hn).id) (by rw [hid]; decide),
      fun n hn hid => (h n hn).id_ne hid⟩
  constructor
  · rintro ⟨a, ha⟩
    obtain ⟨-, hsteps, hentry, hedges⟩ := compileArea_eq_ok ha
    obtain ⟨hall, hdistinct⟩ := (exists_compileNodes_iff hnone).1 ⟨_, hsteps⟩
    rw [compileNodes_ids hsteps] at hedges
    obtain ⟨hforms, hapart⟩ :=
      (exists_compileEdges_iff (hids hall).1 (hids hall).2 Edges.areOf_nil .nil).1 ⟨_, hedges⟩
    unfold compileArea at ha
    obtain ⟨hempty, ha⟩ := ite_throw_eq_ok.1 ha
    split at ha
    · cases ha
    · rename_i hfound
      have hne : d.nodes ≠ [] := by simpa using hempty
      exact ⟨hne, hnames.1 hfound, hall, hdistinct.1, hdistinct.2,
        (exists_compileEntry_iff hne).1 ⟨_, hentry⟩, hforms, hapart⟩
  · rintro ⟨hne, hgood, hall, hdistinct, hkeys, hentry, hforms, hapart⟩
    obtain ⟨steps, hsteps⟩ := (exists_compileNodes_iff hnone).2 ⟨hall, hdistinct, hkeys⟩
    obtain ⟨entry, hentry⟩ : ∃ entry, compileEntry scope d = .ok entry :=
      (exists_compileEntry_iff hne).2 hentry
    obtain ⟨edges, hedges⟩ : ∃ edges, compileEdges host scope (d.nodes.map Node.id) {} 0 d.edges =
        .ok edges :=
      (exists_compileEdges_iff (hids hall).1 (hids hall).2 Edges.areOf_nil .nil).2 ⟨hforms, hapart⟩
    rw [← compileNodes_ids hsteps] at hedges
    refine ⟨⟨scope, entry, steps, edges.links, edges.invalidTargets⟩, ?_⟩
    unfold compileArea
    refine ite_throw_eq_ok.2 ⟨by simpa using hne, ?_⟩
    rw [hnames.2 hgood]
    exact bind_eq_ok.2 ⟨_, hsteps, bind_eq_ok.2 ⟨_, hentry, bind_eq_ok.2 ⟨_, hedges, rfl⟩⟩⟩

theorem compileArea_links (h : compileArea host known scope d = .ok a) :
    List.Forall₂ (Link.IsOf host) (d.edges.filter (!·.onInvalid)) a.links :=
  (compileEdges_areOf Edges.areOf_nil (compileArea_eq_ok h).2.2.2).links

/-! ### Circles and dead ends -/

namespace Area

theorem step?_eq_some_iff (hids : (a.steps.map Step.id).Nodup) {id : NodeId} {s : Step} :
    a.step? id = some s ↔ s ∈ a.steps ∧ s.id = id := by
  constructor
  · exact fun h => ⟨step?_mem h, step?_id h⟩
  · rintro ⟨hs, rfl⟩
    obtain ⟨s', hs'⟩ := Option.isSome_iff_exists.1 (contains_iff.2 (List.mem_map_of_mem hs))
    rw [hs', List.inj_on_of_nodup_map hids (step?_mem hs') hs (step?_id hs')]

theorem arc_plainSuccessors_iff {m n : NodeId} : Arc a.plainSuccessors m n ↔
    ∃ l ∈ a.links, l.source = m ∧ l.target = .node n ∧ l.reentrant = false ∧
      ∀ s, a.step? n = some s → s.node.reentrant = false := by
  simp only [Arc, plainSuccessors, outgoing, List.mem_filterMap, List.mem_filter, decide_eq_true_eq]
  constructor
  · rintro ⟨label, l, ⟨hl, hsource⟩, hlabel⟩
    split at hlabel
    · cases hlabel
    · rename_i n' htarget
      split_ifs at hlabel with hre
      cases hlabel
      rw [Bool.or_eq_true, not_or, Bool.not_eq_true] at hre
      exact ⟨l, hl, hsource, htarget, hre.1, fun s hs => by simpa [hs] using hre.2⟩
  · rintro ⟨l, hl, hsource, htarget, hre, hstep⟩
    refine ⟨qualified a.id n, l, ⟨hl, hsource⟩, ?_⟩
    have hany : ((a.step? n).any fun s => s.node.reentrant) = false := by
      simpa [Option.any_eq_false] using hstep
    rw [htarget]
    simp only [hre, hany, Bool.or_self, Bool.false_eq_true, if_false]

end Area

/-- Among compiled links, one node follows another just when it does in the scope as it is
written. -/
theorem plainSuccessors_iff_follows (h : compileArea host known scope d = .ok a) {m n : NodeId} :
    Arc a.plainSuccessors m n ↔ d.Follows m n := by
  have hregular := exists_compileArea_iff.1 ⟨a, h⟩
  have hids : (a.steps.map Step.id).Nodup := by
    rw [map_step_id, compileArea_nodes h]
    exact hregular.ids
  have hnodes := compileArea_nodes h
  rw [Area.arc_plainSuccessors_iff]
  constructor
  · rintro ⟨l, hl, rfl, htarget, hre, hstep⟩
    obtain ⟨e, he, hof⟩ := exists_of_forall₂_right (compileArea_links h) hl
    obtain ⟨he, hvalid⟩ := List.mem_filter.1 he
    have hends := hof.target
    rw [htarget] at hends
    split_ifs at hends with hexits
    cases hends
    have hmem : e.target ∈ d.nodes.map Node.id :=
      ((hregular.edges e he).target (by simpa using hvalid)).resolve_right
        (by simp_all [Edge.exits])
    rw [← hnodes, ← map_step_id] at hmem
    obtain ⟨s, hs, hid⟩ := List.mem_map.1 hmem
    refine ⟨e, he, by simpa using hvalid, hof.reentrant.symm.trans hre, hof.source.symm, rfl,
      s.node, ?_, hid, ?_⟩
    · rw [← hnodes]
      exact List.mem_map_of_mem hs
    · exact hstep s ((Area.step?_eq_some_iff hids).2 ⟨hs, hid⟩)
  · rintro ⟨e, he, hvalid, hre, rfl, rfl, n, hn, hid, hnode⟩
    obtain ⟨l, hl, hof⟩ := exists_of_forall₂_right (compileArea_links h).flip
      (List.mem_filter.2 ⟨he, by simp [hvalid]⟩)
    have hexits : e.exits = false := by
      rw [Edge.exits, decide_eq_false_iff_not, ← hid]
      exact (hregular.nodes n hn).id_ne
    refine ⟨l, hl, hof.source, ?_, hof.reentrant.trans hre, fun s hs => ?_⟩
    · rw [hof.target, hexits]
      rfl
    · rw [← hnodes] at hn
      obtain ⟨s', hs', rfl⟩ := List.mem_map.1 hn
      rw [(Area.step?_eq_some_iff hids).2 ⟨hs', hid⟩, Option.some.injEq] at hs
      rwa [← hs]

/-- The nodes that follow one of a compiled scope are nodes of the scope. -/
theorem plainSuccessors_mem (h : compileArea host known scope d = .ok a) :
    ∀ m ∈ a.steps.map Step.id, ∀ n, Arc a.plainSuccessors m n → n ∈ a.steps.map Step.id := by
  intro m _ n harc
  obtain ⟨-, -, -, -, -, -, node, hnode, rfl, -⟩ := (plainSuccessors_iff_follows h).1 harc
  rw [map_step_id, compileArea_nodes h]
  exact List.mem_map_of_mem hnode

theorem checkCycles_eq_ok_iff (h : compileArea host known scope d = .ok a) :
    checkCycles a = .ok () ↔ ∀ id, ¬ TransGen d.Follows id id := by
  have harcs : Arc a.plainSuccessors = d.Follows := by
    funext m n
    exact propext (plainSuccessors_iff_follows h)
  have hids : a.steps.map Step.id = d.nodes.map Node.id := by
    rw [map_step_id, compileArea_nodes h]
  have hregular := exists_compileArea_iff.1 ⟨a, h⟩
  rw [checkCycles, mapError_eq_ok, findCycle_eq_ok_iff (plainSuccessors_mem h) (by simp),
    harcs, hids]
  refine ⟨fun hall id hcircle => ?_, fun hall id _ => hall id⟩
  obtain ⟨_, ⟨e, he, -, -, rfl, -⟩, -⟩ := Relation.TransGen.head'_iff.1 hcircle
  exact hall _ (hregular.edges e he).source hcircle

theorem checkDeadEnds_eq_ok_iff (h : compileArea host known scope d = .ok a) :
    checkDeadEnds a = .ok () ↔
      ∀ n ∈ d.nodes, n.kind.isFinal = false → ∃ e ∈ d.edges, e.onInvalid = false ∧ e.source = n.id ∧
        ∃ g, Guard.compileEdgeGuard host.predicates e.guard = .ok g ∧ g.isFallback = true := by
  have hlinks (id : NodeId) : (a.outgoing id).any (fun l => l.guard.isFallback) = true ↔
      ∃ e ∈ d.edges, e.onInvalid = false ∧ e.source = id ∧
        ∃ g, Guard.compileEdgeGuard host.predicates e.guard = .ok g ∧ g.isFallback = true := by
    simp only [List.any_eq_true, Area.outgoing, List.mem_filter, decide_eq_true_eq]
    constructor
    · rintro ⟨l, ⟨hl, hsource⟩, hfallback⟩
      obtain ⟨e, he, hof⟩ := exists_of_forall₂_right (compileArea_links h) hl
      obtain ⟨he, hvalid⟩ := List.mem_filter.1 he
      exact ⟨e, he, by simpa using hvalid, hof.source.symm.trans hsource, _, hof.guard, hfallback⟩
    · rintro ⟨e, he, hvalid, hsource, g, hg, hfallback⟩
      obtain ⟨l, hl, hof⟩ := exists_of_forall₂_right (compileArea_links h).flip
        (List.mem_filter.2 ⟨he, by simp [hvalid]⟩)
      have hsame := hof.guard.symm.trans hg
      rw [Except.ok.injEq] at hsame
      exact ⟨l, ⟨hl, hof.source.trans hsource⟩, hsame ▸ hfallback⟩
  rw [← compileArea_nodes h, List.forall_mem_map]
  unfold checkDeadEnds
  split
  · rename_i s hs
    refine iff_of_false (by simp) fun hall => ?_
    have hbad := List.find?_some hs
    rw [Bool.and_eq_true, Bool.not_eq_true', Bool.not_eq_true'] at hbad
    have hgood := (hlinks s.id).2 (hall s (List.mem_of_find?_eq_some hs) hbad.1)
    rw [hbad.2] at hgood
    cases hgood
  · rename_i hnone
    refine iff_of_true rfl fun s hs hfinal => ?_
    have hpassed := List.find?_eq_none.1 hnone s hs
    rw [← hlinks]
    simpa [hfinal, Step.id] using hpassed

/-- A scope compiles and passes its checks just when it is well formed. -/
theorem isWellFormedAt_iff (h : compileArea host known scope d = .ok a) :
    d.IsWellFormedAt host known scope ↔ checkCycles a = .ok () ∧ checkDeadEnds a = .ok () := by
  rw [checkCycles_eq_ok_iff h, checkDeadEnds_eq_ok_iff h]
  exact ⟨fun hform => ⟨hform.acyclic, hform.onward⟩,
    fun ⟨hacyclic, honward⟩ => ⟨exists_compileArea_iff.1 ⟨a, h⟩, hacyclic, honward⟩⟩

/-! ### Flows -/

/-- The area at an address is the scope at this address compiled. -/
theorem find_area {scopes : List (ScopeId × Flow)} {areas : List Area}
    (h : List.Forall₂ (fun (p : ScopeId × Flow) a => compileArea host known p.1 p.2 = .ok a)
      scopes areas)
    (s : ScopeId) : Option.Rel (fun d a => compileArea host known s d = .ok a)
      (Table.get? scopes s) (areas.find? fun a => a.id = s) := by
  induction h with
  | nil => exact .none
  | @cons p a _ _ hp _ ih =>
    have hid := (compileArea_eq_ok hp).1
    by_cases hs : p.1 = s
    · subst hs
      simpa [Table.get?, hid] using Option.Rel.some hp
    · simpa [Table.get?, hid, hs] using ih

theorem Area.mem_calls {t : ScopeId} :
    (∃ label, (label, t) ∈ a.calls) ↔ ∃ s ∈ a.steps, s.node.reentrant = false ∧ t ∈ s.targets := by
  simp [Area.calls, and_assoc]

/-- Among compiled scopes, one is entered from another just when it is in the flow as it is
written. -/
theorem calls_iff {f : Flow} {areas : List Area}
    (h : List.Forall₂ (fun (p : ScopeId × Flow) a => compileArea host f.scopeIds p.1 p.2 = .ok a)
      f.scopes areas)
    {s t : ScopeId} :
    Arc (fun s => (areas.find? fun a => a.id = s).elim [] Area.calls) s t ↔ f.Calls s t := by
  have hfound := find_area h s
  unfold Arc Flow.Calls
  dsimp only
  generalize Table.get? f.scopes s = found, (areas.find? fun a => a.id = s) = found' at hfound ⊢
  cases hfound with
  | none => simp
  | @some d a hd =>
    rw [Option.elim_some, Area.mem_calls]
    simp only [Option.some.injEq, exists_eq_left']
    have hnodes := compileArea_steps hd
    constructor
    · rintro ⟨step, hstep, hre, ht⟩
      obtain ⟨n, hn, hns⟩ := exists_of_forall₂_right hnodes hstep
      rw [(compileNode_eq_ok hns).1] at hre
      exact ⟨n, hn, hre, (compileNode_mem_targets hns).1 ht⟩
    · rintro ⟨n, hn, hre, ht⟩
      obtain ⟨step, hstep, hns⟩ := exists_of_forall₂_right hnodes.flip hn
      rw [← (compileNode_eq_ok hns).1] at hre
      exact ⟨step, hstep, hre, (compileNode_mem_targets hns).2 ht⟩

/-- Compiled scopes are those of the flow. -/
theorem map_area_id {f : Flow} {areas : List Area}
    (h : List.Forall₂ (fun (p : ScopeId × Flow) a => compileArea host f.scopeIds p.1 p.2 = .ok a)
      f.scopes areas) :
    areas.map Area.id = f.scopeIds :=
  map_eq_map_of_forall₂ (h.flip.imp fun _ _ ha => (compileArea_eq_ok ha).1)

/-- The scopes that are entered from a compiled scope are compiled scopes. -/
theorem calls_mem {f : Flow} {areas : List Area}
    (h : List.Forall₂ (fun (p : ScopeId × Flow) a => compileArea host f.scopeIds p.1 p.2 = .ok a)
      f.scopes areas) :
    ∀ s ∈ areas.map Area.id, ∀ t,
      Arc (fun s => (areas.find? fun a => a.id = s).elim [] Area.calls) s t →
      t ∈ areas.map Area.id := by
  intro s _ t harc
  obtain ⟨-, -, -, -, -, -, -, -, -, -, -, -, -, ht⟩ := (calls_iff h).1 harc
  rwa [map_area_id h]

theorem checkRecursion_eq_ok_iff {f : Flow} {areas : List Area}
    (h : List.Forall₂ (fun (p : ScopeId × Flow) a => compileArea host f.scopeIds p.1 p.2 = .ok a)
      f.scopes areas) :
    checkRecursion areas = .ok () ↔ ∀ s, ¬ TransGen f.Calls s s := by
  have harcs : Arc (fun s => (areas.find? fun a => a.id = s).elim [] Area.calls) = f.Calls := by
    funext s t
    exact propext (calls_iff h)
  rw [checkRecursion, mapError_eq_ok, findCycle_eq_ok_iff (calls_mem h) (by simp), harcs,
    map_area_id h]
  refine ⟨fun hall s hcircle => ?_, fun hall s _ => hall s⟩
  obtain ⟨-, -, -, -, -, -, -, -, -, -, -, -, -, -, -, hs⟩ := Relation.TransGen.tail'_iff.1 hcircle
  exact hall s hs hcircle

/-- **A flow compiles just when it is well formed.** -/
theorem Host.compiles_iff_isWellFormed (host : Host) (f : Flow) :
    (∃ g, host.compile f = .ok g) ↔ f.IsWellFormed host := by
  constructor
  · rintro ⟨g, hg⟩
    obtain ⟨hrecursion, hchecks⟩ := Host.compile_checks hg
    obtain ⟨-, -, hareas⟩ := Host.compile_eq_ok hg
    refine ⟨?_, fun p hp => ?_, (checkRecursion_eq_ok_iff hareas).1 hrecursion⟩
    · unfold Host.compile at hg
      simpa using (ite_throw_eq_ok.1 hg).1
    · obtain ⟨a, ha, hpa⟩ := exists_of_forall₂_right hareas.flip hp
      exact (isWellFormedAt_iff hpa).2 (hchecks a ha)
  · rintro ⟨hid, hscopes, hacyclic⟩
    obtain ⟨areas, hmap⟩ : ∃ areas, f.scopes.mapM (fun p => compileArea host f.scopeIds p.1 p.2) =
        .ok areas :=
      exists_mapM_iff.2 fun p hp => exists_compileArea_iff.2 (hscopes p hp).toIsRegular
    have hareas := mapM_eq_ok.1 hmap
    have hchecks : areas.forM (fun a => do checkCycles a; checkDeadEnds a) = .ok () := by
      refine forM_eq_ok.2 fun a ha => ?_
      obtain ⟨p, hp, hpa⟩ := exists_of_forall₂_right hareas ha
      obtain ⟨hcycles, hends⟩ := (isWellFormedAt_iff hpa).1 (hscopes p hp)
      exact bind_eq_ok.2 ⟨(), hcycles, hends⟩
    have hrecursion := (checkRecursion_eq_ok_iff hareas).2 hacyclic
    refine ⟨⟨f, areas, areas.flatMap Area.warnings, host.predicates⟩, ?_⟩
    unfold Host.compile
    exact ite_throw_eq_ok.2
      ⟨by simpa using hid,
        bind_eq_ok.2 ⟨areas, hmap, bind_eq_ok.2 ⟨(), hrecursion, bind_eq_ok.2 ⟨(), hchecks, rfl⟩⟩⟩⟩

end Parley

import Parley.Proofs.Collections
import Parley.Proofs.Edit.Basic
import Parley.Samples

/-!
# Scopes under edits

An edit changes the content of the scope that it addresses, and nothing else.  So what has become of
a scope can be read off the changes that are addressed to it: nodes and edges that none of them
names stay as they are, in their order, and what edges and the entry refer to is there as long as it
was there before.

* `Change.namesNode`, `Change.namesEdge`, `Change.idsAfter`: what changes name, and which nodes
  there are after them;
* `Flow.Resolves`: a scope whose edges and entry lead to nodes that are there;
* `Flow.Becomes`, `Edit.apply_becomes`: what one edit makes of each scope;
* `Flow.edit_becomes`: what a list of edits makes of it;
* `Flow.Keeps`, `Flow.edit_keeps`: what it leaves alone.
-/

namespace Parley

/-! ### Single changes -/

section Replaced

variable {α β : Type} {p q : α → Bool} {g : α → α}

theorem map_replaceFirst {k : α → β} (h : ∀ a, k (g a) = k a) (l : List α) :
    (Flow.replaceFirst p g l).map k = l.map k := by
  induction l with
  | nil => rfl
  | cons a l ih =>
    rw [Flow.replaceFirst]
    split
    · rw [List.map_cons, List.map_cons, h]
    · rw [List.map_cons, List.map_cons, ih]

theorem filter_replaceFirst (h : ∀ a, p a = true → q a = false ∧ q (g a) = false) (l : List α) :
    (Flow.replaceFirst p g l).filter q = l.filter q := by
  induction l with
  | nil => rfl
  | cons a l ih =>
    rw [Flow.replaceFirst]
    split
    · rename_i hp
      obtain ⟨ha, hga⟩ := h a hp
      rw [List.filter_cons_of_neg (Bool.eq_false_iff.1 ha),
        List.filter_cons_of_neg (Bool.eq_false_iff.1 hga)]
    · rw [List.filter_cons, List.filter_cons, ih]

end Replaced

theorem NodePatch.applyTo_id (p : NodePatch) (n : Node) : (p.applyTo n).id = n.id := by
  unfold applyTo toNode?
  cases ((ofNode n).overlay p).kind <;> rfl

namespace Change

/-- Whether a change names a node. -/
def namesNode (id : NodeId) : Change → Bool
  | .addNode n => n.id = id
  | .removeNode id' => id' = id
  | .updateNode p => p.id = id
  | _ => false

/-- Whether a change names an edge, by its name or by its ends. -/
def namesEdge (e : Edge) : Change → Bool
  | .addEdge e' => e'.key = e.key
  | .removeEdge source target => e.source = source && e.target = target
  | _ => false

/-- The ids of the nodes of a scope after a change: only nodes that are added or removed matter. -/
def idsAfter (ids : List NodeId) : Change → List NodeId
  | .addNode n => ids ++ [n.id]
  | .removeNode id => ids.filter fun id' => id' ≠ id
  | _ => ids

end Change

namespace Flow

/-- A scope without its subgraphs. -/
def bare (f : Flow) : Flow := { f with subgraphs := [] }

/-- The ends of all edges and the entry that is declared are nodes of the scope, or else an edge
leads out of it. -/
structure Resolves (f : Flow) : Prop where
  source : ∀ e ∈ f.edges, e.source = exitTarget ∨ e.source ∈ f.nodes.map Node.id
  target : ∀ e ∈ f.edges, e.target = exitTarget ∨ e.target ∈ f.nodes.map Node.id
  entry : ∀ id ∈ f.entry, id ∈ f.nodes.map Node.id

/-- More nodes and fewer edges do no harm. -/
theorem Resolves.of_subset {f f' : Flow} (hf : f.Resolves)
    (hids : f.nodes.map Node.id ⊆ f'.nodes.map Node.id)
    (hedges : f'.edges ⊆ f.edges) (hentry : f'.entry = f.entry) : f'.Resolves where
  source e he := (hf.source e (hedges he)).imp_right (@hids _)
  target e he := (hf.target e (hedges he)).imp_right (@hids _)
  entry id hid := hids (hf.entry id (hentry ▸ hid))

end Flow

namespace Change.Makes

variable {f f' : Flow} {c : Change}

theorem nodes (h : c.Makes f f') {q : Node → Bool}
    (hq : ∀ n, c.namesNode n.id = true → q n = false) :
    f'.nodes.filter q = f.nodes.filter q := by
  cases h with
  | @addNode n _ =>
    rw [List.filter_append, List.filter_singleton, hq n (decide_eq_true rfl)]
    exact List.append_nil _
  | @removeNode id _ _ _ =>
    rw [List.filter_filter]
    refine List.filter_congr fun n _ => ?_
    by_cases hid : id = n.id
    · rw [hq n (decide_eq_true hid), Bool.false_and]
    · rw [decide_eq_true (Ne.symm hid), Bool.and_true]
  | @updateNode p _ _ =>
    refine filter_replaceFirst (fun n hn => ⟨hq n ?_, hq _ ?_⟩) f.nodes
    · exact decide_eq_true (of_decide_eq_true hn).symm
    · rw [p.applyTo_id]
      exact decide_eq_true (of_decide_eq_true hn).symm
  | addEdge _ _ _ | removeEdge _ | setEntry _ => rfl

theorem edges (h : c.Makes f f') {q : Edge → Bool} (hq : ∀ e, c.namesEdge e = true → q e = false) :
    f'.edges.filter q = f.edges.filter q := by
  cases h with
  | @addEdge e _ _ _ =>
    rw [List.filter_append, List.filter_singleton, hq e (decide_eq_true rfl)]
    exact List.append_nil _
  | @removeEdge source target _ =>
    rw [List.filter_filter]
    refine List.filter_congr fun e _ => ?_
    cases hjoins : (decide (e.source = source) && decide (e.target = target))
    · rw [Bool.not_false, Bool.and_true]
    · rw [hq e hjoins, Bool.false_and]
  | addNode _ | removeNode _ _ _ | updateNode _ _ | setEntry _ => rfl

theorem ids (h : c.Makes f f') : f'.nodes.map Node.id = c.idsAfter (f.nodes.map Node.id) := by
  cases h with
  | addNode _ => exact List.map_append
  | removeNode _ _ _ =>
    rw [idsAfter, List.filter_map]
    rfl
  | @updateNode p _ _ => exact map_replaceFirst p.applyTo_id f.nodes
  | addEdge _ _ _ | removeEdge _ | setEntry _ => rfl

theorem entry (h : c.Makes f f') (hc : ∀ id, c ≠ .setEntry id) : f'.entry = f.entry := by
  cases h with
  | @setEntry id _ => exact absurd rfl (hc id)
  | addNode _ | removeNode _ _ _ | updateNode _ _ | addEdge _ _ _ | removeEdge _ => rfl

/-- A change leaves no edge and no entry without the node that it refers to. -/
theorem resolves (h : c.Makes f f') (hf : f.Resolves) : f'.Resolves := by
  have hids := h.ids
  cases h with
  | addNode _ => exact hf.of_subset (hids ▸ List.subset_append_left _ _) (List.Subset.refl _) rfl
  | @removeNode id _ hfree hinner =>
    have hkept {id' : NodeId} (h : id' ∈ f.nodes.map Node.id) (hne : id' ≠ id) :
        id' ∈ (Change.removeNode id).idsAfter (f.nodes.map Node.id) :=
      List.mem_filter.2 ⟨h, decide_eq_true hne⟩
    refine ⟨fun e he => ?_, fun e he => ?_, fun id' hid' => ?_⟩ <;> rw [hids]
    · exact (hf.source e he).imp_right fun h => hkept h (hfree e he).1
    · exact (hf.target e he).imp_right fun h => hkept h (hfree e he).2
    · refine hkept (hf.entry id' hid') ?_
      rintro rfl
      exact hinner hid'
  | updateNode _ _ => exact hf.of_subset (hids ▸ List.Subset.refl _) (List.Subset.refl _) rfl
  | addEdge hsource htarget _ =>
    exact ⟨List.forall_mem_append.2 ⟨hf.source, List.forall_mem_singleton.2 (.inr hsource)⟩,
      List.forall_mem_append.2
        ⟨hf.target, List.forall_mem_singleton.2 (htarget.imp_left of_decide_eq_true)⟩, hf.entry⟩
  | removeEdge _ => exact hf.of_subset (List.Subset.refl _) (List.filter_subset_self _) rfl
  | setEntry hknown => exact ⟨hf.source, hf.target, fun id hid => Option.some.inj hid ▸ hknown⟩

/-- Subgraphs do not matter for a change. -/
theorem bare (h : c.Makes f f') : c.Makes f.bare f'.bare := by
  cases h with
  | addNode hnew => exact .addNode hnew
  | removeNode hknown hfree hinner => exact .removeNode hknown hfree hinner
  | updateNode hkept hknown => exact .updateNode hkept hknown
  | addEdge hsource htarget hnew => exact .addEdge hsource htarget hnew
  | removeEdge hknown => exact .removeEdge hknown
  | setEntry hknown => exact .setEntry hknown

end Change.Makes

/-! ### Scopes -/

namespace Flow

/-- What changes that are addressed to a scope make of it: they are applied to its content one after
the other, and the names of its subgraphs stay. -/
structure Becomes (cs : List Change) (f f' : Flow) : Prop where
  content : cs.foldlM Change.apply f.bare = .ok f'.bare
  names : Dict.Ordered f.subgraphs → f'.subgraphs.map Prod.fst = f.subgraphs.map Prod.fst

theorem Becomes.refl (f : Flow) : Becomes [] f f := ⟨rfl, fun _ => rfl⟩

theorem Becomes.trans {cs cs' : List Change} {f f' f'' : Flow} (h : Becomes cs f f')
    (h' : Becomes cs' f' f'') :
    Becomes (cs ++ cs') f f'' := by
  refine ⟨?_, fun hordered => ?_⟩
  · rw [List.foldlM_append, h.content]
    exact h'.content
  · have hnames := h.names hordered
    have hordered' : Dict.Ordered f'.subgraphs := by
      have hkeys : (f'.subgraphs.map Prod.fst).Pairwise (· < ·) :=
        hnames ▸ List.pairwise_map.2 hordered
      exact List.pairwise_map.1 hkeys
    exact (h'.names hordered').trans hnames

theorem Becomes.rel_refl : ∀ o : Option Flow, Option.Rel (Becomes []) o o
  | none => .none
  | some f => .some (.refl f)

theorem Becomes.rel_trans {cs cs' : List Change} :
    ∀ {o o' o'' : Option Flow}, Option.Rel (Becomes cs) o o' →
      Option.Rel (Becomes cs') o' o'' → Option.Rel (Becomes (cs ++ cs')) o o''
  | _, _, _, .none, .none => .none
  | _, _, _, .some h, .some h' => .some (h.trans h')

/-- What a change in a scope makes of all scopes. -/
theorem updateAt?_becomes {names : List String} {f f' graph changed : Flow} {c : Change}
    (hgraph : f.descend? names = some graph) (hc : c.Makes graph changed)
    (h : updateAt? (fun _ => changed) names f = some f') (path : List String) :
    Option.Rel (Becomes (if names = path then [c] else [])) (f.descend? path)
      (f'.descend? path) := by
  induction names generalizing f f' path with
  | nil =>
    cases hgraph
    cases h
    cases path with
    | nil =>
      refine .some ⟨?_, fun _ => by rw [hc.subgraphs]⟩
      rw [if_pos rfl, List.foldlM_cons, Change.apply_eq_ok_iff.2 hc.bare]
      rfl
    | cons name path =>
      rw [if_neg nofun, descend?, descend?, hc.subgraphs]
      exact Becomes.rel_refl _
  | cons name r ih =>
    obtain ⟨sub, sub', hsub, hsub', rfl⟩ := updateAt?_cons_eq_some h
    rw [descend?, hsub, Option.bind_some] at hgraph
    cases path with
    | nil => exact .some ⟨rfl, fun hordered => Dict.Ordered.map_fst_insert hordered hsub sub'⟩
    | cons name' path =>
      rw [descend?, descend?, Dict.get?_insert]
      by_cases hname : name = name'
      · subst hname
        rw [if_pos rfl, hsub, Option.bind_some, Option.bind_some]
        simpa only [List.cons.injEq, true_and] using ih hgraph hsub' path
      · rw [if_neg hname, if_neg fun heq => hname (List.cons.inj heq).1]
        exact Becomes.rel_refl _

/-- What lies neither in a scope nor around it is the same when the scope is changed. -/
theorem updateAt?_elsewhere {names path : List String} {f f' graph changed : Flow} {c : Change}
    (hgraph : f.descend? names = some graph) (hc : c.Makes graph changed)
    (h : updateAt? (fun _ => changed) names f = some f') (hpath : ¬ path <+: names) :
    f'.descend? path = f.descend? path := by
  induction names generalizing f f' path with
  | nil =>
    cases hgraph
    cases h
    cases path with
    | nil => exact absurd List.nil_prefix hpath
    | cons name path => rw [descend?, descend?, hc.subgraphs]
  | cons name r ih =>
    obtain ⟨sub, sub', hsub, hsub', rfl⟩ := updateAt?_cons_eq_some h
    rw [descend?, hsub, Option.bind_some] at hgraph
    cases path with
    | nil => exact absurd List.nil_prefix hpath
    | cons name' path =>
      rw [descend?, descend?, Dict.get?_insert]
      split
      · rename_i hname
        subst hname
        rw [hsub, Option.bind_some, Option.bind_some]
        exact ih hgraph hsub' fun hprefix => hpath (List.cons_prefix_cons.2 ⟨rfl, hprefix⟩)
      · rfl

end Flow

/-- The changes that edits address to the scope to which names lead. -/
def Edit.changesAt (path : List String) (edits : List Edit) : List Change :=
  edits.flatMap fun e => if e.scope.segments = path then [e.change] else []

namespace Flow

variable {f f' : Flow} {edits : List Edit}

/-- **What edits make of each scope.**  The scopes stay, and each becomes what the changes that are
addressed to it make of it. -/
theorem edit_becomes (h : f.edit edits = .ok f') (path : List String) :
    Option.Rel (Becomes (Edit.changesAt path edits)) (f.descend? path) (f'.descend? path) := by
  refine foldlM_induction
    (P := fun passed f' => Option.Rel (Becomes (Edit.changesAt path passed)) (f.descend? path)
      (f'.descend? path))
    (edit_eq_ok_iff.1 h) ?_ fun passed e next next' _ hnext happly => ?_
  · exact Becomes.rel_refl _
  obtain ⟨graph, changed, hgraph, hmakes, hupdate⟩ := Edit.apply_eq_ok happly
  rw [Edit.changesAt, List.flatMap_append, List.flatMap_singleton, ← Edit.changesAt]
  exact Becomes.rel_trans hnext (updateAt?_becomes hgraph hmakes hupdate path)

/-- What lies neither in a scope that an edit addresses nor around one is the same. -/
theorem edit_elsewhere (h : f.edit edits = .ok f') {path : List String}
    (hpath : ∀ e ∈ edits, ¬ path <+: e.scope.segments) : f'.descend? path = f.descend? path := by
  refine foldlM_induction (P := fun _ f' => f'.descend? path = f.descend? path)
    (edit_eq_ok_iff.1 h) rfl
    fun _ e next next' he hnext happly => ?_
  obtain ⟨graph, changed, hgraph, hmakes, hupdate⟩ := Edit.apply_eq_ok happly
  exact (updateAt?_elsewhere hgraph hmakes hupdate (hpath e he)).trans hnext

/-! ### What edits leave alone -/

/-- What changes that are addressed to a scope leave alone in it. -/
structure Keeps (cs : List Change) (f f' : Flow) : Prop where
  sameName : f.SameName f'
  /-- The subgraphs have the same names. -/
  names : Dict.Ordered f.subgraphs → f'.subgraphs.map Prod.fst = f.subgraphs.map Prod.fst
  /-- A scope that no edit addresses is the same, but for what its subgraphs have become. -/
  content : cs = [] → f' = { f with subgraphs := f'.subgraphs }
  /-- Nodes that are not named are the same, in the same order. -/
  nodes : (f'.nodes.filter fun n => !cs.any (·.namesNode n.id)) = f.nodes.filter fun n =>
    !cs.any (·.namesNode n.id)
  /-- Edges that are not named are the same, in the same order. -/
  edges : (f'.edges.filter fun e => !cs.any (·.namesEdge e)) = f.edges.filter fun e =>
    !cs.any (·.namesEdge e)
  /-- An update changes no id, and moves no node. -/
  ids : f'.nodes.map Node.id = cs.foldl Change.idsAfter (f.nodes.map Node.id)
  entry : (∀ c ∈ cs, ∀ id, c ≠ .setEntry id) → f'.entry = f.entry
  /-- If all that edges and the entry refer to was there, it still is. -/
  resolves : f.Resolves → f'.Resolves

/-- What becomes of a scope keeps what each change keeps. -/
theorem Becomes.keeps {cs : List Change} (h : Becomes cs f f') : Keeps cs f f' := by
  have hrun {P : List Change → Flow → Prop} (hb : P [] f.bare)
      (hstep : ∀ passed c g g', c ∈ cs → P passed g → c.Makes g g' → P (passed ++ [c]) g') :
      P cs f'.bare :=
    foldlM_induction h.content hb fun passed c g g' hc hg happly =>
      hstep passed c g g' hc hg (Change.apply_eq_ok_iff.1 happly)
  have hsameName : f.bare.SameName f'.bare :=
    hrun (P := fun _ => f.bare.SameName) (.refl _) fun _ _ _ _ _ hg hmakes =>
      hg.trans hmakes.sameName
  refine ⟨⟨hsameName.id, hsameName.version, hsameName.record⟩, h.names, ?_, ?_, ?_, ?_,
    fun hentry => ?_, ?_⟩
  · rintro rfl
    have hbare : f'.bare = f.bare := (pure_eq_ok.1 h.content).symm
    obtain ⟨_, _, _, _, _, subgraphs, _⟩ := f'
    exact congrArg (fun g : Flow => { g with subgraphs := subgraphs }) hbare
  · refine hrun (P := fun _ g => (g.nodes.filter fun n => !cs.any (·.namesNode n.id)) = _) rfl
      fun _ c g g' hc hg hmakes => (hmakes.nodes fun n hn => ?_).trans hg
    rw [List.any_eq_true.2 ⟨c, hc, hn⟩, Bool.not_true]
  · refine hrun (P := fun _ g => (g.edges.filter fun e => !cs.any (·.namesEdge e)) = _) rfl
      fun _ c g g' hc hg hmakes => (hmakes.edges fun e he => ?_).trans hg
    rw [List.any_eq_true.2 ⟨c, hc, he⟩, Bool.not_true]
  · refine hrun (P := fun passed g => g.nodes.map Node.id =
      passed.foldl Change.idsAfter (f.nodes.map Node.id)) rfl
      fun passed c g g' _ hg hmakes => ?_
    rw [List.foldl_concat, ← hg, hmakes.ids]
  · exact hrun (P := fun _ g => g.entry = f.entry) rfl fun _ c g g' hc hg hmakes =>
      (hmakes.entry (hentry c hc)).trans hg
  · intro hresolves
    have hbare : f'.bare.Resolves := hrun (P := fun _ => Resolves)
      ⟨hresolves.source, hresolves.target, hresolves.entry⟩ fun _ _ _ _ _ hg hmakes =>
        hmakes.resolves hg
    exact ⟨hbare.source, hbare.target, hbare.entry⟩

theorem Becomes.rel_keeps {cs : List Change} :
    ∀ {o o' : Option Flow}, Option.Rel (Becomes cs) o o' → Option.Rel (Keeps cs) o o'
  | _, _, .none => .none
  | _, _, .some h => .some h.keeps

/-- **Edits touch only what they name, and keep references intact.**  The flow has the same scopes
as before.  Each keeps what none of the changes that are addressed to it names, and refers to nodes
that are there if it did before.  Where nothing is addressed to a scope or to one inside of it, all
of it is the same. -/
theorem edit_keeps (h : f.edit edits = .ok f') (path : List String) :
    Option.Rel (Keeps (Edit.changesAt path edits)) (f.descend? path) (f'.descend? path) ∧
      ((∀ e ∈ edits, ¬ path <+: e.scope.segments) → f'.descend? path = f.descend? path) :=
  ⟨Becomes.rel_keeps (edit_becomes h path), edit_elsewhere h⟩

end Flow

/-! ### Edits in a subgraph -/

namespace Samples

/-- The path of a small customer, on which the number of seats is recorded. -/
def recordedTeam : Flow where
  nodes :=
    [(Node.question "seats" "seats" "How many seats?").withValidator "integer", .action "record"]
  edges := [.always "seats" "record", .exit "record"]

/-- Record the number of seats, and start with the budget. -/
def recording : List Edit := [
  { scope := ⟨"smb"⟩, change := .addNode (.action "record") },
  { scope := ⟨"smb"⟩, change := .removeEdge "seats" exitTarget },
  { scope := ⟨"smb"⟩, change := .addEdge (.always "seats" "record") },
  { scope := ⟨"smb"⟩, change := .addEdge (.exit "record") },
  { scope := ⟨"smb"⟩, change := .updateNode { id := "seats", prompt := some "How many seats?" } },
  { change := .setEntry "budget" }]

/-- The flow that the edits make. -/
def recordedFlow : Flow :=
  { qualification with
    entry := some "budget"
    subgraphs := [("enterprise", enterprise), ("smb", recordedTeam)] }

theorem edit_recording : qualification.edit recording = .ok recordedFlow := by
  cbv

/-- The path of a large customer stays as it is. -/
theorem recording_keeps :
    qualification.edit recording = .ok recordedFlow ∧
      Option.Rel (Flow.Keeps (Edit.changesAt ["smb"] recording)) (some smallTeam)
        (some recordedTeam) ∧
      (∀ e ∈ recording, ¬ ["enterprise"] <+: e.scope.segments) ∧
      recordedFlow.descend? ["enterprise"] = some enterprise := by
  have helsewhere : ∀ e ∈ recording, ¬ ["enterprise"] <+: e.scope.segments := by
    decide
  exact ⟨edit_recording, (Flow.edit_keeps edit_recording ["smb"]).1, helsewhere,
    (Flow.edit_keeps edit_recording ["enterprise"]).2 helsewhere⟩

end Samples

end Parley

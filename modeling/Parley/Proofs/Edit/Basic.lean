import Parley.Edit.Basic
import Parley.Proofs.Checked

/-!
# What edits leave alone

Edits change the graph of a flow and its subgraphs, and never its id, its version and its record.

* `Flow.SameName`;
* `Change.Makes`, `Change.apply_eq_ok_iff`: what each kind of change needs and does;
* `Flow.updateAt?_cons_eq_some`: what a change inside of a subgraph does to the flow around it;
* `Edit.apply_eq_ok`, `Flow.edit_eq_ok_iff`: where an edit makes its change, and edits one after the
  other;
* `Flow.edit_sameName`.
-/

namespace Parley

namespace Flow

/-- Two flows have the same id, version and record. -/
structure SameName (f f' : Flow) : Prop where
  id : f'.id = f.id
  version : f'.version = f.version
  record : f'.record = f.record

namespace SameName

variable {f f' f'' : Flow}

theorem refl (f : Flow) : f.SameName f := ⟨rfl, rfl, rfl⟩

theorem trans (h : f.SameName f') (h' : f'.SameName f'') : f.SameName f'' :=
  ⟨h'.id.trans h.id, h'.version.trans h.version, h'.record.trans h.record⟩

end SameName

end Flow

variable {f f' : Flow}

theorem Flow.isNone_node?_iff {id : NodeId} :
    (f.node? id).isNone = true ↔ id ∉ f.nodes.map Node.id := by
  rw [node?, Option.isNone_iff_eq_none, List.find?_eq_none]
  simp

/-- What each kind of change needs and does. -/
inductive Change.Makes (f : Flow) : Change → Flow → Prop
  | addNode {n : Node} (new : n.id ∉ f.nodes.map Node.id) :
      Makes f (.addNode n) { f with nodes := f.nodes ++ [n] }
  | removeNode {id : NodeId} (known : id ∈ f.nodes.map Node.id)
      (free : ∀ e ∈ f.edges, e.source ≠ id ∧ e.target ≠ id) (inner : f.entry ≠ some id) :
      Makes f (.removeNode id) { f with nodes := f.nodes.filter fun n => n.id ≠ id }
  | updateNode {p : NodePatch} (kept : p.remove = false) (known : p.id ∈ f.nodes.map Node.id) :
      Makes f (.updateNode p)
        { f with nodes := Flow.replaceFirst (fun n => n.id = p.id) p.applyTo f.nodes }
  | addEdge {e : Edge} (source : e.source ∈ f.nodes.map Node.id)
      (target : e.exits = true ∨ e.target ∈ f.nodes.map Node.id)
        (new : ∀ other ∈ f.edges, other.key ≠ e.key) :
      Makes f (.addEdge e) { f with edges := f.edges ++ [e] }
  | removeEdge {source target : NodeId}
      (known : ∃ e ∈ f.edges, e.source = source ∧ e.target = target) :
      Makes f (.removeEdge source target)
        { f with edges := f.edges.filter fun e => !(e.source = source && e.target = target) }
  | setEntry {id : NodeId} (known : id ∈ f.nodes.map Node.id) :
      Makes f (.setEntry id) { f with entry := some id }

/-- A change is applied if its scope has what it needs, and then does what it says. -/
theorem Change.apply_eq_ok_iff {c : Change} : c.apply f = .ok f' ↔ c.Makes f f' := by
  have hsome {id : NodeId} : (f.node? id).isSome = true ↔ id ∈ f.nodes.map Node.id := by
    rw [← not_iff_not, ← Flow.isNone_node?_iff]
    simp
  constructor
  · intro h
    cases c with
    | addNode n =>
      simp only [apply, Flow.addNode, hsome] at h
      split_ifs at h with hnew
      cases h
      exact .addNode hnew
    | removeNode id =>
      simp only [apply, Flow.removeNode, Flow.isNone_node?_iff] at h
      split at h
      · cases h
      · rename_i hknown
        split at h
        · cases h
        · rename_i hfree
          split at h
          · cases h
          · rename_i hentry
            cases h
            exact .removeNode (not_not.1 hknown)
              (fun e he => by simpa using List.find?_eq_none.1 hfree e he) hentry
    | updateNode p =>
      simp only [apply, Flow.updateNode, Flow.isNone_node?_iff] at h
      split_ifs at h with hremove hknown
      cases h
      exact .updateNode (Bool.eq_false_iff.2 hremove) hknown
    | addEdge e =>
      simp only [apply, Flow.addEdge, Flow.isNone_node?_iff, Bool.and_eq_true, Bool.not_eq_true']
        at h
      split_ifs at h with hsource htarget hnew
      cases h
      refine .addEdge hsource ?_ (by simpa using hnew)
      rwa [not_and_or, Bool.not_eq_false, not_not] at htarget
    | removeEdge source target =>
      simp only [apply, Flow.removeEdge] at h
      split_ifs at h with hknown
      cases h
      exact .removeEdge (by simpa using hknown)
    | setEntry id =>
      simp only [apply, Flow.setEntry, Flow.isNone_node?_iff] at h
      split_ifs at h with hknown
      cases h
      exact .setEntry hknown
  · intro h
    cases h with
    | addNode hnew => simp only [apply, Flow.addNode, hsome, hnew, if_false]
    | @removeNode id hknown hfree hinner =>
      have hnone : (f.edges.find? fun e => e.source = id || e.target = id) = none :=
        List.find?_eq_none.2 fun e he => by simpa using hfree e he
      simp only [apply, Flow.removeNode, Flow.isNone_node?_iff, hknown, not_true_eq_false, hnone,
        hinner, if_false]
    | updateNode hkept hknown =>
      simp only [apply, Flow.updateNode, Flow.isNone_node?_iff, hkept, hknown, not_true_eq_false,
        Bool.false_eq_true, if_false]
    | @addEdge e hsource htarget hnew =>
      have htarget : ¬ (e.exits = false ∧ e.target ∉ f.nodes.map Node.id) := by
        rwa [not_and_or, Bool.not_eq_false, not_not]
      have hnew : ¬ (f.edges.any fun other => other.key = e.key) = true := by
        simpa using hnew
      simp only [apply, Flow.addEdge, Flow.isNone_node?_iff, Bool.and_eq_true,
        Bool.not_eq_true', hsource, not_true_eq_false, htarget, hnew, Bool.false_eq_true, if_false]
    | @removeEdge source target hknown =>
      have hknown : (f.edges.any fun e => e.source = source && e.target = target) = true := by
        simpa using hknown
      simp only [apply, Flow.removeEdge, hknown, if_true]
    | setEntry hknown =>
      simp only [apply, Flow.setEntry, Flow.isNone_node?_iff, hknown, not_true_eq_false, if_false]

theorem Change.Makes.sameName {c : Change} (h : c.Makes f f') : f.SameName f' := by
  cases h <;> exact ⟨rfl, rfl, rfl⟩

/-- A change leaves the subgraphs of its scope alone. -/
theorem Change.Makes.subgraphs {c : Change} (h : c.Makes f f') : f'.subgraphs = f.subgraphs := by
  cases h <;> rfl

/-- A change below a name is made in the subgraph of that name, which is put back in its place. -/
theorem Flow.updateAt?_cons_eq_some {g : Flow → Flow} {name : String} {r : List String}
    (h : updateAt? g (name :: r) f = some f') :
    ∃ sub sub', Dict.get? f.subgraphs name = some sub ∧ updateAt? g r sub = some sub' ∧
      f' = { f with subgraphs := Dict.insert f.subgraphs name sub' } := by
  unfold updateAt? updateSubgraph? at h
  split at h
  · cases h
  · rename_i sub hsub
    obtain ⟨sub', hsub', rfl⟩ := Option.map_eq_some_iff.1 h
    exact ⟨sub, sub', hsub, hsub', rfl⟩

/-- A change inside of a subgraph does not touch the flow around it. -/
theorem Flow.updateAt?_sameName {g : Flow → Flow} {names : List String}
    (hg : names = [] → f.SameName (g f)) (h : Flow.updateAt? g names f = some f') :
    f.SameName f' := by
  cases names with
  | nil =>
    cases h
    exact hg rfl
  | cons name r =>
    obtain ⟨sub, sub', -, -, rfl⟩ := updateAt?_cons_eq_some h
    exact ⟨rfl, rfl, rfl⟩

/-- An edit changes the scope that it addresses, and puts it in its place. -/
theorem Edit.apply_eq_ok {e : Edit} (h : e.apply f = .ok f') :
    ∃ graph changed, f.descend? e.scope.segments = some graph ∧ e.change.Makes graph changed ∧
      Flow.updateAt? (fun _ => changed) e.scope.segments f = some f' := by
  unfold Edit.apply at h
  split at h
  · cases h
  · rename_i graph hscope
    obtain ⟨changed, hchanged, h⟩ := bind_eq_ok.1 h
    split at h
    · cases h
    · rename_i edited hupdate
      cases h
      exact ⟨graph, changed, hscope, Change.apply_eq_ok_iff.1 hchanged, hupdate⟩

theorem Edit.apply_sameName {e : Edit} (h : e.apply f = .ok f') : f.SameName f' := by
  obtain ⟨graph, changed, hgraph, hmakes, hupdate⟩ := Edit.apply_eq_ok h
  refine Flow.updateAt?_sameName (fun hroot => ?_) hupdate
  rw [hroot, Flow.descend?] at hgraph
  cases hgraph
  exact hmakes.sameName

/-- Edits that are applied are applied one after the other. -/
theorem Flow.edit_eq_ok_iff {edits : List Edit} :
    f.edit edits = .ok f' ↔ edits.foldlM Edit.apply f = .ok f' := by
  have hfrom (index : Nat) : editFrom index f edits = .ok f' ↔
      edits.foldlM Edit.apply f = .ok f' := by
    induction edits generalizing index f with
    | nil => exact Iff.of_eq (by rw [editFrom, List.foldlM_nil, Except.ok.injEq, pure_eq_ok])
    | cons e r ih =>
      rw [editFrom, List.foldlM_cons, bind_eq_ok, bind_eq_ok]
      exact exists_congr fun next => and_congr mapError_eq_ok (ih (index + 1))
  exact hfrom 0

/-- **Edits keep the id, the version and the record of a flow.** -/
theorem Flow.edit_sameName {edits : List Edit} (h : f.edit edits = .ok f') : f.SameName f' :=
  foldlM_induction (P := fun _ => f.SameName) (edit_eq_ok_iff.1 h) (.refl f)
    fun _ _ _ _ _ hc happly => hc.trans (Edit.apply_sameName happly)

end Parley

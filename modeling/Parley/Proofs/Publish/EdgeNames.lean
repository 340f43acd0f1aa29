import Parley.Proofs.Publish.Interleaving
import Parley.Proofs.Store.EdgeNames

/-!
# The names of edges in published versions

Edits, merged layers and versions that are published again keep the edges of a scope apart by their
names.  A flow that is created is published as it is given, and nothing compares the names of its
edges.  So the versions of a flow have edges that can be told apart if the definition with which it
was created has.

* `Request.definition?`: the definition that a request brings along;
* `Request.Makes.hasDistinctEdges`: what is made of versions whose edges can be told apart;
* `SharedStore.distinct_edges_iff`;
* `Samples.forked`: a flow that compiles, with two edges of one name.
-/

namespace Parley

namespace Request

variable {stamp : Stamp} {s : Store} {base : Option Version} {f : Flow} {request : Request}

/-- The definition that a request brings along. -/
def definition? : Request → Option Flow
  | create _ flow _ => some flow
  | _ => none

/-- What is published of a definition has just its edges. -/
theorem Makes.hasDistinctEdges_definition {d : Flow} (h : request.Makes stamp s base f)
    (hd : d ∈ request.definition?) : f.HasDistinctEdges ↔ d.HasDistinctEdges := by
  cases request with
  | create tenant flow author =>
    obtain rfl := Option.some.inj hd
    obtain ⟨-, rfl⟩ := h
    exact Flow.HasDistinctEdges.congr rfl rfl
  | apply r => cases hd
  | rollback key target author => cases hd
  | merge tenant layers base' author => cases hd

/-- **Without a definition, what is made of versions whose edges can be told apart is such a
version.** -/
theorem Makes.hasDistinctEdges (h : request.Makes stamp s base f)
    (hdefinition : request.definition? = none) (hs :
      ∀ old ∈ s.versions ⟨request.tenant, f.id⟩, old.HasDistinctEdges) : f.HasDistinctEdges := by
  cases request with
  | create tenant flow author => cases hdefinition
  | apply r =>
    obtain ⟨hid, -, old, hold, -, content, next, hkept, hedit, rfl⟩ := h
    have hcontent := Store.kept_hasDistinctEdges hkept (hs old (hid ▸ hold))
    have hnext := Flow.edit_hasDistinctEdges hedit hcontent
    refine (Flow.HasDistinctEdges.congr ?_ ?_).2 hnext <;> rfl
  | rollback key target author =>
    obtain ⟨hid, -, old, hold, -, content, hkept, rfl⟩ := h
    have hcontent := Store.kept_hasDistinctEdges hkept (hs old (hid ▸ hold))
    refine (Flow.HasDistinctEdges.congr ?_ ?_).2 hcontent <;> rfl
  | merge tenant layers base' author =>
    obtain ⟨-, merged, hmerge, rfl⟩ := h
    refine (Flow.HasDistinctEdges.congr ?_ ?_).2 (Layer.merge_hasDistinctEdges hmerge) <;> rfl

end Request

namespace SharedStore

variable {x y : SharedStore} {key : FlowKey} {f : Flow}

/-- What a step adds to the versions was made by a client of the versions that were there before. -/
theorem IsSound.step_makes (h : x.IsSound) (hstep : Step x y) (hf : f ∈ y.store.versions key) :
    f ∈ x.store.versions key ∨
      ∃ c ∈ y.clients, c.Published key f ∧ ∃ base, c.request.Makes c.stamp x.store base f := by
  cases hstep with
  | start host stamp request => exact .inl hf
  | @call i c hi =>
    rcases h.clients c (List.mem_of_getElem? hi) with hc | ⟨base, g, hplan, -, -⟩
    · rcases hc.step h.orderly with ⟨hstore, -⟩ | ⟨base, g, hmakes, -, -, hstep⟩
      · exact .inl (hstore ▸ hf)
      · have hstore : (x.called i c).store = x.store.append ⟨c.request.tenant, g.id⟩ g :=
          congrArg Prod.fst hstep
        rw [hstore] at hf
        rcases Store.mem_versions_append hf with hf | ⟨rfl, rfl⟩
        · exact .inl hf
        · have hi' := (List.getElem?_eq_some_iff.1 hi).1
          refine .inr ⟨c.called x.store, List.mem_set hi' _, ⟨rfl, ?_⟩, base, hmakes⟩
          exact congrArg Prod.snd hstep
    · rw [called_of_done hi hplan] at hf
      exact .inl hf

/-- A client that has published stays as it is. -/
theorem Step.mem_of_published {c : Client} (hstep : Step x y) (hc : c ∈ x.clients)
    (hf : c.Published key f) :
    c ∈ y.clients := by
  cases hstep with
  | start host stamp request => exact List.mem_append_left _ hc
  | @call i d hi =>
    obtain ⟨j, hj⟩ := List.mem_iff_getElem?.1 hc
    by_cases hij : i = j
    · subst hij
      cases hi.symm.trans hj
      rwa [called_of_done hi hf.2]
    · refine List.mem_iff_getElem?.2 ⟨j, ?_⟩
      rw [called, List.getElem?_set_ne hij, hj]

theorem Leads.mem_of_published {c : Client} (h : Leads x y) (hc : c ∈ x.clients)
    (hf : c.Published key f) :
    c ∈ y.clients := by
  induction h with
  | refl => exact hc
  | tail _ hstep ih => exact hstep.mem_of_published ih hf

/-- **The edges of a flow can be told apart in all its versions just if they can in the definitions
of it that were published.**  However the calls of the clients fall, no edit, no merge and no
version that is published again brings two edges of one name into a scope. -/
theorem distinct_edges_iff {backend : Backend} {conversations : Table ThreadKey Conversation}
    (h : (fresh backend conversations).Leads x) (key : FlowKey) :
    (∀ f ∈ x.store.versions key, f.HasDistinctEdges) ↔
      ∀ c ∈ x.clients, ∀ f, c.Published key f → ∀ d ∈ c.request.definition?,
        d.HasDistinctEdges := by
  have hfresh := IsSound.fresh backend conversations
  constructor
  · intro hversions c hc f hf d hd
    obtain ⟨hmem, base, hmakes⟩ := ((hfresh.leads h).clients c hc).of_published hf
    exact (hmakes.hasDistinctEdges_definition hd).1 (hversions f hmem)
  · intro hdefinitions
    -- on the way there, each version is made of those before it
    suffices ∀ y, (fresh backend conversations).Leads y → y.Leads x →
        ∀ f ∈ y.store.versions key, f.HasDistinctEdges from this x h .refl
    intro y hy
    induction hy with
    | refl => exact fun _ f hf => absurd hf List.not_mem_nil
    | tail hleads hstep ih =>
      intro hrest f hf
      have hbefore := ih (.head hstep hrest)
      rcases (hfresh.leads hleads).step_makes hstep hf with hf | ⟨c, hc, hpublished, base, hmakes⟩
      · exact hbefore f hf
      · cases hdefinition : c.request.definition? with
        | none => exact hmakes.hasDistinctEdges hdefinition (hpublished.1 ▸ hbefore)
        | some d =>
          have hd :=
            hdefinitions c (hrest.mem_of_published hc hpublished) f hpublished d hdefinition
          exact (hmakes.hasDistinctEdges_definition hdefinition).2 hd

end SharedStore

/-! ### Two edges of one name -/

namespace Samples

/-- The edges of all versions of `Samples.detour` can be told apart. -/
theorem distinct_edges_twoAuthors :
    (SharedStore.fresh .memory []).Leads twoAuthors ∧
      twoAuthors.store.versions ⟨"acme", "detour"⟩ = [created "a"] ∧
      (created "a").HasDistinctEdges := by
  have hleads : (SharedStore.fresh .memory []).Leads twoAuthors :=
    .tail (.tail (.tail .refl (.start _ _ _ _)) (.start _ _ _ _)) (.call rfl)
  have hdetour : (detour 1).HasDistinctEdges := by decide +kernel
  have hdistinct := SharedStore.distinct_edges_iff hleads ⟨"acme", "detour"⟩
  have hversions := hdistinct.2 fun c hc f _ d hd => by
    -- both authors bring the same definition along
    rcases List.mem_cons.1 hc with rfl | hc
    · exact Option.some.inj hd ▸ hdetour
    · rw [List.mem_singleton.1 hc] at hd
      exact Option.some.inj hd ▸ hdetour
  rw [twoAuthors_versions, List.forall_mem_singleton] at hversions
  exact ⟨hleads, twoAuthors_versions, hversions⟩

/-- A question with two ways to the same end, the second for all other answers. -/
def forked : Flow where
  id := "forked"
  version := 1
  nodes := [.question "ask" "seats" "How many seats do you need?", .terminal "end"]
  edges := [.guarded "ask" "end" "seats == 1", .otherwise "ask" "end"]

theorem compile_forked : ∃ g, Host.builtin.compile forked = .ok g :=
  exists_of_isOk (by decide +kernel)

/-- A client that is about to create `forked`. -/
def forking : Client := .start .builtin ⟨"a", default⟩ (.create "acme" forked none)

/-- What it publishes. -/
def forkedVersion : Flow := Publisher.stamped ⟨"a", default⟩ none "initial version" none forked

/-- The flow compiles and is published with two edges of one name, of which a merge leaves only
one. -/
theorem forked_published :
    ∃ x, (SharedStore.fresh .memory []).Leads x ∧
      x.store.versions ⟨"acme", "forked"⟩ = [forkedVersion] ∧
      forkedVersion.edges.map Edge.key = ["ask->end", "ask->end"] ∧
      ¬ forkedVersion.HasDistinctEdges ∧
      (Layer.merge [.ofFlow .single forkedVersion]).map (fun m => m.flow.edges) =
        .ok [.otherwise "ask" "end"] := by
  obtain ⟨g, hg⟩ := compile_forked
  refine ⟨((SharedStore.fresh .memory []).joined forking).called 0 forking, ?_, ?_,
    rfl, by decide +kernel, by cbv⟩
  · exact .tail (.tail .refl (.start _ _ _ _)) (.call rfl)
  · exact Request.step_create hg rfl

end Samples

end Parley

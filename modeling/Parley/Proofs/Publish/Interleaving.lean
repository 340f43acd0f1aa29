import Parley.Proofs.Graph.Compiled
import Parley.Proofs.Publish.Request

/-!
# Clients of one store

Any number of clients work on their requests against one store.  Each makes its store calls one by
one, and the calls of others may fall between them.  Nevertheless versions are numbered without a
gap, nothing that was published is lost, and of all clients that computed the same version only one
publishes it.

* `Client`, `Client.Published`;
* `SharedStore`, `SharedStore.Step`, `SharedStore.Leads`;
* `SharedStore.IsSound`: what every step keeps;
* `SharedStore.no_update_lost`.
-/

namespace Parley

/-- Someone who works on a request. -/
structure Client where
  stamp : Stamp
  request : Request
  plan : Plan (Except PublishError Flow)

namespace Client

/-- A client that has made no call yet. -/
def start (host : Host) (stamp : Stamp) (request : Request) : Client :=
  ⟨stamp, request, request.plan host stamp⟩

/-- The client after its next call. -/
def called (c : Client) (s : Store) : Client := { c with plan := (c.plan.step s).2 }

/-- The client was told that it has published a version of a flow. -/
def Published (c : Client) (key : FlowKey) (f : Flow) : Prop :=
  key = ⟨c.request.tenant, f.id⟩ ∧ c.plan = .done (.ok f)

/-- A client is still preparing its publication, or what it has published is in the store. -/
def IsSound (c : Client) (s : Store) : Prop :=
  c.request.Prepares c.stamp c.plan s ∨
    ∃ base f, c.plan = .done (.ok f) ∧ f ∈ s.versions ⟨c.request.tenant, f.id⟩ ∧
      c.request.Makes c.stamp s base f

variable {c : Client} {s s' : Store} {key : FlowKey} {f : Flow}

theorem not_published (h : c.request.Prepares c.stamp c.plan s) : ¬ c.Published key f := by
  rintro ⟨-, hplan⟩
  rw [hplan] at h
  obtain ⟨e, he⟩ := h
  cases he

namespace IsSound

theorem mono (h : c.IsSound s) (hs : s.Extends s') : c.IsSound s' := by
  rcases h with h | ⟨base, f, hplan, hf, hmakes⟩
  · exact .inl (h.mono hs)
  · exact .inr ⟨base, f, hplan, hs.mem hf, hmakes.mono hs⟩

theorem of_published (h : c.IsSound s) (hf : c.Published key f) :
    f ∈ s.versions key ∧ ∃ base, c.request.Makes c.stamp s base f := by
  rcases h with h | ⟨base, g, hplan, hg, hmakes⟩
  · exact absurd hf (not_published h)
  · obtain ⟨rfl, hplan'⟩ := hf
    rw [hplan] at hplan'
    cases hplan'
    exact ⟨hg, base, hmakes⟩

end IsSound

end Client

/-- Clients that share a store. -/
structure SharedStore where
  store : Store
  clients : List Client := []

namespace SharedStore

/-- A store without any version. -/
def fresh (backend : Backend) (conversations : Table ThreadKey Conversation) : SharedStore where
  store := { backend, conversations }

/-- One more client starts to work. -/
def joined (x : SharedStore) (c : Client) : SharedStore := { x with clients := x.clients ++ [c] }

/-- One client makes its next call. -/
def called (x : SharedStore) (i : ℕ) (c : Client) : SharedStore :=
  ⟨(c.plan.step x.store).1, x.clients.set i (c.called x.store)⟩

/-- A client starts, or any one of them makes its next call. -/
inductive Step : SharedStore → SharedStore → Prop
  | start (x : SharedStore) (host : Host) (stamp : Stamp) (request : Request) :
      Step x (x.joined (.start host stamp request))
  | call {x : SharedStore} {i : ℕ} {c : Client} (hc : x.clients[i]? = some c) :
      Step x (x.called i c)

/-- Any number of steps. -/
def Leads : SharedStore → SharedStore → Prop := Relation.ReflTransGen Step

/-- A client was told that it has published a version of a flow. -/
def Publishes (x : SharedStore) (i : ℕ) (key : FlowKey) (f : Flow) : Prop :=
  ∃ c, x.clients[i]? = some c ∧ c.Published key f

variable {x y : SharedStore} {key : FlowKey} {f : Flow} {i j : ℕ} {c : Client}

/-! ### Steps -/

theorem Step.extends (h : Step x y) : x.store.Extends y.store := by
  cases h with
  | start host stamp request => exact .refl _
  | call hc => exact Plan.step_extends _ _

theorem Leads.extends (h : Leads x y) : x.store.Extends y.store := by
  induction h with
  | refl => exact .refl _
  | tail _ hstep ih => exact ih.trans hstep.extends

theorem publishes_joined (hc : ¬ c.Published key f) :
    (x.joined c).Publishes i key f ↔ x.Publishes i key f := by
  constructor
  · rintro ⟨d, hd, hf⟩
    rw [joined, List.getElem?_append] at hd
    split at hd
    · exact ⟨d, hd, hf⟩
    · rw [List.mem_singleton.1 (List.mem_of_getElem? hd)] at hf
      exact absurd hf hc
  · rintro ⟨d, hd, hf⟩
    obtain ⟨hi, -⟩ := List.getElem?_eq_some_iff.1 hd
    exact ⟨d, (List.getElem?_append_left hi).trans hd, hf⟩

theorem publishes_called (hc : x.clients[i]? = some c) :
    (x.called i c).Publishes j key f ↔
      if i = j then (c.called x.store).Published key f else x.Publishes j key f := by
  obtain ⟨hi, -⟩ := List.getElem?_eq_some_iff.1 hc
  unfold Publishes called
  rw [List.getElem?_set]
  split
  · simp only [Option.some.injEq, exists_eq_left']
  · rfl

theorem not_publishes {s : Store} (hi : x.clients[i]? = some c)
    (hc : c.request.Prepares c.stamp c.plan s) : ¬ x.Publishes i key f := by
  rintro ⟨d, hd, hf⟩
  cases hi.symm.trans hd
  exact Client.not_published hc hf

/-- A client that is still preparing its publication after a call has published nothing by it. -/
theorem publishes_called_of_prepares {s s' : Store} (hi : x.clients[i]? = some c)
    (hc : c.request.Prepares c.stamp c.plan s)
    (hcalled : c.request.Prepares c.stamp (c.called x.store).plan s') :
    (x.called i c).Publishes j key f ↔ x.Publishes j key f := by
  rw [publishes_called hi]
  split
  · rename_i heq
    subst heq
    exact iff_of_false (Client.not_published hcalled) (not_publishes hi hc)
  · rfl

/-- A client that ends in a version after a call has published just this by it. -/
theorem publishes_called_of_published {s : Store} {g : Flow} (hi : x.clients[i]? = some c)
    (hc : c.request.Prepares c.stamp c.plan s) (hplan : (c.called x.store).plan = .done (.ok f)) :
    (x.called i c).Publishes j key g ↔
      x.Publishes j key g ∨ j = i ∧ key = ⟨c.request.tenant, f.id⟩ ∧ g = f := by
  rw [publishes_called hi]
  split
  · rename_i heq
    subst heq
    constructor
    · rintro ⟨hkey, hg⟩
      rw [hplan] at hg
      cases hg
      exact .inr ⟨rfl, hkey, rfl⟩
    · rintro (hg | ⟨-, rfl, rfl⟩)
      · exact absurd hg (not_publishes hi hc)
      · exact ⟨rfl, hplan⟩
  · rename_i hne
    constructor
    · exact .inl
    · rintro (hg | ⟨rfl, -, -⟩)
      · exact hg
      · exact absurd rfl hne

/-- Nothing happens when a client that is done is called. -/
theorem called_of_done {r : Except PublishError Flow} (hi : x.clients[i]? = some c)
    (hplan : c.plan = .done r) : x.called i c = x := by
  obtain ⟨hi, rfl⟩ := List.getElem?_eq_some_iff.1 hi
  unfold called Client.called
  rw [hplan, Plan.step, ← hplan, List.set_getElem_self]

/-! ### What steps keep -/

/-- The store is orderly, its clients are sound, and each version was published by exactly one of
them. -/
structure IsSound (x : SharedStore) : Prop where
  orderly : x.store.IsOrderly
  clients : ∀ c ∈ x.clients, c.IsSound x.store
  author : ∀ key, ∀ f ∈ x.store.versions key, ∃! i, x.Publishes i key f

namespace IsSound

theorem fresh (backend : Backend) (conversations : Table ThreadKey Conversation) :
    (fresh backend conversations).IsSound where
  orderly := .of_empty fun _ => rfl
  clients := fun _ hc => absurd hc List.not_mem_nil
  author := fun _ _ hf => absurd hf List.not_mem_nil

theorem mem_of_publishes (h : x.IsSound) (hf : x.Publishes i key f) : f ∈ x.store.versions key := by
  obtain ⟨c, hc, hf⟩ := hf
  exact ((h.clients c (List.mem_of_getElem? hc)).of_published hf).1

theorem joined (h : x.IsSound) (hc : c.request.Prepares c.stamp c.plan x.store) :
    (x.joined c).IsSound := by
  refine ⟨h.orderly, fun d hd => ?_, fun key f hf => ?_⟩
  · rcases List.mem_append.1 hd with hd | hd
    · exact h.clients d hd
    · rw [List.mem_singleton.1 hd]
      exact .inl hc
  · simp only [publishes_joined (Client.not_published hc)]
    exact h.author key f hf

/-- A call that finds something out, or is refused. -/
theorem called_of_prepares (h : x.IsSound) (hi : x.clients[i]? = some c)
    (hc : c.request.Prepares c.stamp c.plan x.store) (hstore : (c.plan.step x.store).1 = x.store)
    (hplan : c.request.Prepares c.stamp (c.plan.step x.store).2 x.store) :
    (x.called i c).IsSound := by
  have hsame : (x.called i c).store = x.store := hstore
  refine ⟨hsame ▸ h.orderly, fun d hd => ?_, fun key f hf => ?_⟩
  · rw [hsame]
    rcases List.mem_or_eq_of_mem_set hd with hd | rfl
    · exact h.clients d hd
    · exact .inl hplan
  · rw [hsame] at hf
    simp only [publishes_called_of_prepares hi hc hplan]
    exact h.author key f hf

/-- A call that publishes the next version. -/
theorem called_of_published {base : Option Version} (h : x.IsSound) (hi : x.clients[i]? = some c)
    (hc : c.request.Prepares c.stamp c.plan x.store)
    (hmakes : c.request.Makes c.stamp x.store base f)
    (horderly : (x.store.append ⟨c.request.tenant, f.id⟩ f).IsOrderly)
    (hversion : f.version = (x.store.versions ⟨c.request.tenant, f.id⟩).length + 1)
    (hstep : c.plan.step x.store = (x.store.append ⟨c.request.tenant, f.id⟩ f, .done (.ok f))) :
    (x.called i c).IsSound := by
  have hstore : (x.called i c).store = x.store.append ⟨c.request.tenant, f.id⟩ f :=
    congrArg Prod.fst hstep
  have hplan : (c.called x.store).plan = .done (.ok f) := congrArg Prod.snd hstep
  have hextends : x.store.Extends (x.called i c).store := c.plan.step_extends x.store
  -- nobody was told before that this version is published, as the store did not have it
  have hnew : ∀ j, ¬ x.Publishes j ⟨c.request.tenant, f.id⟩ f := by
    intro j hj
    have hle := (h.orderly.version_le (h.mem_of_publishes hj)).2
    rw [hversion] at hle
    exact Nat.not_succ_le_self _ hle
  refine ⟨hstore ▸ horderly, fun d hd => ?_, fun key g hg => ?_⟩
  · rcases List.mem_or_eq_of_mem_set hd with hd | rfl
    · exact (h.clients d hd).mono hextends
    · exact .inr ⟨base, f, hplan, hstore ▸ x.store.append_mem _ f, hmakes.mono hextends⟩
  · simp only [publishes_called_of_published hi hc hplan]
    rw [hstore] at hg
    rcases Store.mem_versions_append hg with hg | ⟨rfl, rfl⟩
    · obtain ⟨j, hj, hunique⟩ := h.author key g hg
      refine ⟨j, .inl hj, fun k hk => ?_⟩
      rcases hk with hk | ⟨-, rfl, rfl⟩
      · exact hunique k hk
      · exact absurd hj (hnew j)
    · refine ⟨i, .inr ⟨rfl, rfl, rfl⟩, fun k hk => ?_⟩
      rcases hk with hk | ⟨rfl, -, -⟩
      · exact absurd hk (hnew k)
      · rfl

/-- **Whoever makes the next call, the store and its clients stay sound.** -/
theorem step (h : x.IsSound) (hstep : Step x y) : y.IsSound := by
  cases hstep with
  | start host stamp request => exact h.joined (request.plan_prepares host stamp x.store)
  | @call i c hi =>
    -- only a client that is still preparing can change the store
    rcases h.clients c (List.mem_of_getElem? hi) with hc | ⟨base, f, hplan, -, -⟩
    · rcases hc.step h.orderly with ⟨hstore, hplan⟩ | ⟨base, f, hmakes, horderly, hversion, hstep⟩
      · exact h.called_of_prepares hi hc hstore hplan
      · exact h.called_of_published hi hc hmakes horderly hversion hstep
    · rw [called_of_done hi hplan]
      exact h

theorem leads (h : x.IsSound) (hleads : Leads x y) : y.IsSound := by
  induction hleads with
  | refl => exact h
  | tail _ hstep ih => exact ih.step hstep

end IsSound

/-- **No update is lost.**  However the calls of its clients fall, a store that was empty numbers
its versions from one without a gap, each names the one before it, and all of them stay.  Every
version was published by a client, which made it of versions in the store, and by no other; and a
client that is about to publish a version which is not the next one is refused as stale. -/
theorem no_update_lost {backend : Backend} {conversations : Table ThreadKey Conversation}
    (h : (fresh backend conversations).Leads x) :
    (∀ key, (x.store.versions key).map Flow.version = List.range' 1 (x.store.versions key).length) ∧
    (∀ key, ∀ f ∈ x.store.versions key, ∃ r, f.record = some r ∧ r.version = f.version ∧
      r.predecessor = if f.version = 1 then none else some (f.version - 1)) ∧
    (∀ y, x.Leads y → ∀ key, x.store.versions key <+: y.store.versions key) ∧
    (∀ key, ∀ f ∈ x.store.versions key, ∃ i, x.Publishes i key f) ∧
    (∀ i j key f g, x.Publishes i key f → x.Publishes j key g → f.version = g.version →
      i = j ∧ f = g) ∧
    (∀ c ∈ x.clients, ∀ key f, c.Published key f →
      f ∈ x.store.versions key ∧ ∃ base, c.request.Makes c.stamp x.store base f) ∧
    ∀ c ∈ x.clients, ∀ tenant f base next, c.plan = .publish tenant f base next →
      f.version = base.elim 1 (· + 1) ∧
        (f.version ≠ (x.store.versions ⟨tenant, f.id⟩).length + 1 →
          c.plan.step x.store =
            (x.store,
              .done (.error (.stale (base.getD 0) (x.store.versions ⟨tenant, f.id⟩).length)))) := by
  have hsound := (IsSound.fresh backend conversations).leads h
  refine ⟨hsound.orderly.numbers, hsound.orderly.records, fun y hy => hy.extends.versions,
    fun key f hf => (hsound.author key f hf).exists, fun i j key f g hi hj hversion => ?_,
    fun c hc key f => (hsound.clients c hc).of_published, fun c hc tenant f base next hplan => ?_⟩
  · have hf := hsound.mem_of_publishes hi
    obtain rfl := hsound.orderly.eq_of_version hf (hsound.mem_of_publishes hj) hversion
    exact ⟨(hsound.author key f hf).unique hi hj, rfl⟩
  · rcases hsound.clients c hc with hprepares | ⟨_, _, hdone, -⟩
    · rw [hplan] at hprepares ⊢
      exact ⟨hprepares.2.1.version_eq, hprepares.step_stale hsound.orderly⟩
    · rw [hplan] at hdone
      cases hdone

end SharedStore

/-! ### Two authors -/

namespace Request

variable {host : Host} {stamp : Stamp} {tenant : TenantId} {f : Flow} {g : Graph}
    {author : Option String}

/-- A flow that compiles is about to be published. -/
theorem create_plan (hg : host.compile f = .ok g) :
    ∃ next, (create tenant f author).plan host stamp =
      .publish tenant (Publisher.stamped stamp none "initial version" author f) none next := by
  rw [plan, Publisher.create, Plan.map_bind_pure fun _ => rfl, Publisher.publishNext, hg]
  exact ⟨_, rfl⟩

/-- It becomes the first version of its flow. -/
theorem step_create (hg : host.compile f = .ok g) {s : Store}
    (hs : s.versions ⟨tenant, f.id⟩ = []) :
    (((create tenant f author).plan host stamp).step s).1.versions ⟨tenant, f.id⟩ =
      [Publisher.stamped stamp none "initial version" author f] := by
  obtain ⟨next, hplan⟩ : ∃ next, (create tenant f author).plan host stamp =
      .publish tenant _ none next :=
    create_plan hg
  have htop : s.top ⟨tenant, f.id⟩ = none := by
    rw [Store.top, hs]
    rfl
  have hfits : s.checkVersion 1 = .ok () := by
    unfold Store.checkVersion
    split
    · rfl
    · exact if_pos (by decide)
  have hpublish : s.publish tenant (Publisher.stamped stamp none "initial version" author f) none =
      .ok (s.append ⟨tenant, f.id⟩ (Publisher.stamped stamp none "initial version" author f),
        .published) := by
    rw [Store.publish_eq]
    show (if s.top ⟨tenant, f.id⟩ ≠ none then _ else
      if 1 ≠ (s.top ⟨tenant, f.id⟩).elim 1 (· + 1) then _
      else (s.checkVersion 1).bind _) = _
    rw [htop, hfits]
    rfl
  rw [hplan, Plan.step_publish_of_ok hpublish, Store.versions_append, if_pos rfl, hs]
  rfl

end Request

namespace Samples

/-- A client that is about to create `Samples.detour`. -/
def creating (changeId : String) : Client :=
  .start .builtin ⟨changeId, default⟩ (.create "acme" (detour 1) none)

/-- What `Samples.creating` publishes. -/
def created (changeId : String) : Flow :=
  Publisher.stamped ⟨changeId, default⟩ none "initial version" none (detour 1)

/-- Two clients create the same flow, and the first of them has published it. -/
def twoAuthors : SharedStore :=
  (((SharedStore.fresh .memory []).joined (creating "a")).joined (creating "b")).called 0
    (creating "a")

theorem creating_plan (changeId : String) :
    ∃ next, (creating changeId).plan = .publish "acme" (created changeId) none next :=
  Request.create_plan (compile_detour 1)

theorem twoAuthors_versions : twoAuthors.store.versions ⟨"acme", "detour"⟩ = [created "a"] :=
  Request.step_create (compile_detour 1) rfl

end Samples

theorem SharedStore.no_update_lost_twoAuthors :
    (SharedStore.fresh .memory []).Leads Samples.twoAuthors ∧
      Samples.creating "b" ∈ Samples.twoAuthors.clients ∧
      ∃ next, (Samples.creating "b").plan = .publish "acme" (Samples.created "b") none next ∧
        (Samples.creating "b").plan.step Samples.twoAuthors.store =
          (Samples.twoAuthors.store, .done (.error (.stale 0 1))) := by
  have hleads : (SharedStore.fresh .memory []).Leads Samples.twoAuthors :=
    .tail (.tail (.tail .refl (.start _ _ _ _)) (.start _ _ _ _)) (.call rfl)
  have hmem : Samples.creating "b" ∈ Samples.twoAuthors.clients :=
    List.mem_cons_of_mem _ List.mem_cons_self
  obtain ⟨next, hplan⟩ := Samples.creating_plan "b"
  refine ⟨hleads, hmem, next, hplan, ?_⟩
  have hversions : Samples.twoAuthors.store.versions ⟨"acme", (Samples.created "b").id⟩ =
      [Samples.created "a"] :=
    Samples.twoAuthors_versions
  have hrefused := ((no_update_lost hleads).2.2.2.2.2.2 _ hmem _ _ _ _ hplan).2
  rw [hversions] at hrefused
  exact hrefused (by decide)

end Parley

import Parley.Proofs.Conversation.Placement
import Parley.Proofs.Publish.Atomic
import Parley.Proofs.Service.Act

/-!
# Histories of the service

Versions come into the store by operations that compile them, conversations by commands that run on
compiled versions.  So however operations and commands follow each other, each conversation in the
store is pinned to a version that is there, compiles, and has its position: none of them is ever
stranded.  A write that is refused leaves all as it was.

* `Store.FindsAgain`: a store that finds what it keeps as it was;
* `Store.IsHome`: a version to which a conversation can come back;
* `Service.Input`, `Service.after`: histories;
* `Service.IsSound`: what every history keeps;
* `Service.Serves`, `Service.serves_after`, `Service.serves_in_memory`.
-/

namespace Parley

/-! ### What a store finds again -/

namespace Store

/-- Whatever is kept is found again as it was. -/
structure FindsAgain (s : Store) : Prop where
  flows : ∀ key, ∀ f ∈ s.versions key, s.kept f = .ok f
  conversations : ∀ key c, s.conversations.get? key = some c → s.keptConversation c = .ok c

variable {s s' : Store} {key : FlowKey} {f : Flow}

theorem findsAgain_of_memory (h : s.backend = .memory) : s.FindsAgain where
  flows _ f _ := by
    unfold kept
    rw [h]
  conversations _ c _ := by
    unfold keptConversation
    rw [h]

theorem mapM_self {α ε : Type} {r : α → Except ε α} {o : Option α}
    (h : ∀ a, o = some a → r a = .ok a) :
    o.mapM r = .ok o := by
  cases o with
  | none => rfl
  | some a => exact option_mapM_eq_ok.2 (.inr ⟨a, a, rfl, h a rfl, rfl⟩)

theorem FindsAgain.latest_eq (h : s.FindsAgain) (key : FlowKey) :
    s.latest key = .ok (s.versions key).getLast? :=
  mapM_self fun f hf => h.flows key f (List.mem_of_getLast? hf)

theorem FindsAgain.conversation_eq (h : s.FindsAgain) (key : ThreadKey) :
    s.conversation key = .ok (s.conversations.get? key) :=
  mapM_self fun c hc => h.conversations key c hc

/-- A version is found, or there is no version of this number. -/
theorem FindsAgain.load_cases (h : s.FindsAgain) (hs : s.IsOrderly) (key : FlowKey) (v : Version) :
    (∃ f ∈ s.versions key, f.version = v ∧ s.load key v = .ok (some f)) ∨
    (∀ f ∈ s.versions key, f.version ≠ v) ∧
    (s.load key v = .ok none ∨ ∃ fault, s.load key v = .error fault) := by
  cases hv : s.checkVersion v with
  | error fault =>
    refine .inr ⟨fun f hf hversion => ?_, .inr ⟨fault, ?_⟩⟩
    · have hfits := hs.fits key f hf
      rw [hversion, hv] at hfits
      cases hfits
    · rw [load, hv]
      rfl
  | ok u =>
    have hload : s.load key v = .ok ((s.versions key).find? fun f => f.version = v) :=
      bind_eq_ok.2 ⟨u, hv, mapM_self fun f hf => h.flows key f (List.mem_of_find?_eq_some hf)⟩
    rw [hload]
    cases hfind : (s.versions key).find? fun f => f.version = v with
    | none => exact .inr ⟨fun f hf => by simpa using List.find?_eq_none.1 hfind f hf, .inl rfl⟩
    | some f =>
      exact .inl ⟨f, List.mem_of_find?_eq_some hfind, by simpa using List.find?_some hfind, rfl⟩

/-! ### Homes -/

/-- The version that a conversation is pinned to is in the store and compiles to this graph, which
has its position. -/
def IsHome (host : Host) (s : Store) (tenant : TenantId) (c : Conversation) (g : Graph) : Prop :=
  ∃ f ∈ s.versions ⟨tenant, c.flow⟩, f.version = c.version ∧ host.compile f = .ok g ∧ c.IsPlaced g

variable {host : Host} {tenant : TenantId} {c c' : Conversation} {g : Graph}

theorem IsHome.mono (h : s.IsHome host tenant c g) (hs : s.Extends s') :
    s'.IsHome host tenant c g := by
  obtain ⟨f, hf, hversion⟩ := h
  exact ⟨f, hs.mem hf, hversion⟩

/-- A conversation that is placed in the graph of a version is at home there. -/
theorem isHome_of_placed (hs : s.IsOrderly) (hf : f ∈ s.versions key) (hg : host.compile f = .ok g)
    (hc : c.IsPlaced g) : s.IsHome host key.tenant c g := by
  have hflow : g.flow = f := (Host.compile_eq_ok hg).1
  have hkey : key.flow = c.flow := by
    rw [← hc.flow, Graph.id, hflow, hs.ids key f hf]
  refine ⟨f, hkey ▸ hf, ?_, hg, hc⟩
  rw [← hc.version, Graph.version, hflow]

theorem IsHome.isPlaced (h : s.IsHome host tenant c g) : c.IsPlaced g := by
  obtain ⟨-, -, -, -, hc⟩ := h
  exact hc

theorem IsHome.isClosed (h : s.IsHome host tenant c g) : g.IsClosed := by
  obtain ⟨f, -, -, hg, -⟩ := h
  exact Graph.IsCompiled.isClosed ⟨host, f, hg⟩

/-- Whatever is done with a conversation on its version leaves it at home. -/
theorem IsHome.call (h : s.IsHome host tenant c g) (hs : s.IsOrderly) (e : Engine) (k : Call) :
    s.IsHome host tenant (e.call g c k).conversation g := by
  have hplaced := Engine.call_isPlaced (e := e) h.isClosed h.isPlaced k
  obtain ⟨f, hf, -, hg, -⟩ := h
  exact isHome_of_placed hs hf hg hplaced

end Store

namespace Service

open Act

/-! ### Histories -/

/-- What an author or a conversation may ask for.  What a command writes may be refused. -/
inductive Input
  | mutation (stamp : Stamp) (request : Request)
  | command (key : ThreadKey) (command : Command) (refusal : Option String := none)

/-- The service after an operation on versions. -/
def mutated (host : Host) (stamp : Stamp) (s : Service) : Request → Service
  | .create tenant flow author => (s.publish (Publisher.create host stamp tenant flow author)).1
  | .apply r => (s.publish (Publisher.apply host stamp r)).1
  | .rollback key target author => (s.publish (Publisher.rollback host stamp key target author)).1
  | .merge tenant layers base author =>
      (s.publish (Publisher.publishLayers host stamp tenant layers base author)).1

/-- The service after an input. -/
def handle (settings : ServiceSettings) (s : Service) : Input → Service
  | .mutation stamp request => s.mutated settings.host stamp request
  | .command key command refusal => (s.execute settings key command refusal).1

/-- The service after inputs one after the other. -/
def after (settings : ServiceSettings) (s : Service) (history : List Input) : Service :=
  history.foldl (handle settings) s

/-- A service on a store that holds nothing yet. -/
def fresh (backend : Backend) : Service := { store := { backend } }

/-- The versions in the store compile, the graphs that are kept are theirs, and all conversations
are at home. -/
structure IsSound (host : Host) (backend : Backend) (s : Service) : Prop where
  backend : s.store.backend = backend
  orderly : s.store.IsOrderly
  compiles : ∀ key, ∀ f ∈ s.store.versions key, ∃ g, host.compile f = .ok g
  graphs : ∀ key g, s.graphs.get? key = some g →
    ∃ f ∈ s.store.versions key.flow, f.version = key.version ∧ host.compile f = .ok g
  homes : ∀ key c, s.store.conversations.get? key = some c → ∃ g, s.store.IsHome host key.tenant c g

theorem fresh_isSound (host : Host) (backend : Backend) : (fresh backend).IsSound host backend where
  backend := rfl
  orderly := .of_empty fun _ => rfl
  compiles _ _ hf := nomatch hf
  graphs _ _ hg := nomatch hg
  homes _ _ hc := nomatch hc

namespace IsSound

variable {host : Host} {backend : Backend} {s s' : Service}

/-- It does not matter what has been told of. -/
theorem congr (hs : s.IsSound host backend) (hstore : s'.store = s.store)
    (hgraphs : s'.graphs = s.graphs) : s'.IsSound host backend where
  backend := hstore ▸ hs.backend
  orderly := hstore ▸ hs.orderly
  compiles := hstore ▸ hs.compiles
  graphs := by
    rw [hgraphs, hstore]
    exact hs.graphs
  homes := hstore ▸ hs.homes

/-- Conversations that are at home may be put in the place of those in the store. -/
theorem setConversations (hs : s.IsSound host backend)
    {conversations : Table ThreadKey Conversation}
    (h : ∀ key c, conversations.get? key = some c → ∃ g, s.store.IsHome host key.tenant c g) :
    IsSound host backend { s with store := { s.store with conversations := conversations } } where
  backend := hs.backend
  orderly := ⟨hs.orderly.ids, hs.orderly.numbers, hs.orderly.records, hs.orderly.fits⟩
  compiles := hs.compiles
  graphs := hs.graphs
  homes := h

end IsSound

variable {settings : ServiceSettings} {backend : Backend} {s : Service}

/-! ### Graphs and versions -/

/-- The graph of a version is compiled from it, if there is such a version. -/
theorem graph_yields (hs : s.IsSound settings.host backend) (hfinds : s.store.FindsAgain)
    (key : GraphKey) :
    Yields s (graph settings key)
      (fun g s' => s'.IsSound settings.host backend ∧ s'.store = s.store ∧
        ∃ f ∈ s.store.versions key.flow, f.version = key.version ∧ settings.host.compile f = .ok g)
      (fun _ s' => s'.IsSound settings.host backend ∧ s'.store = s.store ∧
        ∀ f ∈ s.store.versions key.flow, f.version ≠ key.version) := by
  refine yields_get ?_
  split
  · rename_i g hg
    exact yields_pure ⟨hs, rfl, hs.graphs key g hg⟩
  · refine yields_get ?_
    refine Yields.bind (P := fun found s' => s' = s ∧ s.store.load key.flow key.version = .ok found)
      (yields_ofStore (fun _ h => ⟨rfl, h⟩) fun fault hload => ?_) ?_
    · rcases hfinds.load_cases hs.orderly key.flow key.version with ⟨f, -, -, h⟩ | ⟨hnone, -⟩
      · rw [h] at hload
        cases hload
      · exact ⟨hs, rfl, hnone⟩
    · rintro found s' ⟨rfl, hload⟩
      rcases hfinds.load_cases hs.orderly key.flow key.version with
        ⟨f, hf, hversion, h⟩ | ⟨hnone, h | ⟨fault, h⟩⟩ <;>
        rw [h] at hload <;> cases hload
      · obtain ⟨g, hg⟩ := hs.compiles _ f hf
        simp only [hg]
        refine Yields.bind (P := fun _ s'' => s''.IsSound settings.host backend ∧
          s''.store = s'.store) (yields_modify ⟨?_, rfl⟩) ?_
        · refine ⟨hs.backend, hs.orderly, hs.compiles, fun key' g' hg' => ?_, hs.homes⟩
          rw [Table.get?_set] at hg'
          split at hg'
          · rename_i heq
            cases hg'
            exact heq ▸ ⟨f, hf, hversion, hg⟩
          · split at hg'
            · cases hg'
            · exact hs.graphs key' g' hg'
        · rintro - s'' ⟨hs'', hstore⟩
          exact yields_pure ⟨hs'', hstore, f, hf, hversion, hg⟩
      · exact yields_throw ⟨hs, rfl, hnone⟩

/-- The last version of a flow is found, if there is any. -/
theorem latest_yields (hfinds : s.store.FindsAgain) (key : FlowKey) :
    Yields s (latest key) (fun f s' => s' = s ∧ f ∈ s.store.versions key)
      (fun _ s' => s' = s ∧ s.store.versions key = []) := by
  refine yields_get ?_
  rw [hfinds.latest_eq]
  refine Yields.bind (P := fun found s' => s' = s ∧ (s.store.versions key).getLast? = found)
    (yields_ofStore (fun _ h => ⟨rfl, Except.ok.inj h⟩) (fun _ h => by cases h)) ?_
  rintro found s' ⟨rfl, hfound⟩
  cases found with
  | none => exact yields_throw ⟨rfl, List.getLast?_eq_none_iff.1 hfound⟩
  | some f => exact yields_pure ⟨rfl, List.mem_of_getLast? hfound⟩

theorem ofReply_yields (r : Reply) :
    Yields s (ofReply r) (fun p s' => s' = s ∧ p.1 = r.conversation ∧ r.result = .ok p.2)
      (fun _ s' => s' = s ∧ ∃ fault, r.result = .error fault) := by
  unfold ofReply
  split
  · rename_i o ho
    exact yields_pure ⟨rfl, rfl, ho⟩
  · rename_i fault hfault
    exact yields_throw ⟨rfl, fault, hfault⟩

/-- A conversation that is at home is stored, unless the store refuses it. -/
theorem conclude_yields (hs : s.IsSound settings.host backend) (key : ThreadKey)
    (before : Option Conversation) {c : Conversation} {g : Graph}
    (hc : s.store.IsHome settings.host key.tenant c g) (o : Outcome) (refusal : Option String) :
    Yields s (conclude key before c o refusal)
      (fun r s' => s'.IsSound settings.host backend ∧ s'.store.conversations.get? key = some c ∧
        r = .outcome o)
      (fun _ s' => s'.IsSound settings.host backend ∧ refusal ≠ none) := by
  refine Yields.bind (P := fun _ s' => s'.IsSound settings.host backend ∧
    s'.store.conversations.get? key = some c)
      (yields_write (fun _ => ⟨?_, ?_⟩) fun reason hreason => ⟨hs, by simp [hreason]⟩) ?_
  · refine hs.setConversations fun key' c' hc' => ?_
    rw [Table.get?_set] at hc'
    split at hc'
    · rename_i heq
      cases hc'
      exact ⟨g, heq ▸ hc⟩
    · exact hs.homes key' c' hc'
  · rw [Store.save, Table.get?_set, if_pos rfl]
  · rintro - s' ⟨hs', hkept⟩
    refine Yields.bind (P := fun _ s'' => s''.IsSound settings.host backend ∧ s''.store = s'.store)
      (yields_modify ⟨hs'.congr rfl rfl, rfl⟩) ?_
    rintro - s'' ⟨hs'', hstore⟩
    exact yields_pure ⟨hs'', hstore ▸ hkept, rfl⟩

/-! ### Commands -/

variable {key : ThreadKey} {c : Conversation} {g : Graph}

/-- The graph of a conversation that is at home is that of its home. -/
theorem homeGraph_yields (hs : s.IsSound settings.host backend) (hfinds : s.store.FindsAgain)
    (hc : s.store.IsHome settings.host key.tenant c g) :
    Yields s (graph settings ⟨⟨key.tenant, c.flow⟩, c.version⟩)
      (fun g' s' => s'.IsSound settings.host backend ∧ s'.store = s.store ∧ g' = g)
        (fun _ _ => False) := by
  obtain ⟨f, hf, hversion, hg, -⟩ := hc
  refine (graph_yields hs hfinds _).imp ?_ ?_
  · rintro g' s' ⟨hs', hstore, f', hf', hversion', hg'⟩
    refine ⟨hs', hstore, ?_⟩
    rw [hs.orderly.eq_of_version hf' hf (hversion'.trans hversion.symm), hg, Except.ok.injEq] at hg'
    exact hg'.symm
  · rintro - s' ⟨-, -, hnone⟩
    exact hnone f hf hversion

/-- A turn of a conversation that is at home is served. -/
theorem turn_yields (hs : s.IsSound settings.host backend)
    (hc : s.store.IsHome settings.host key.tenant c g) (input : TurnInput) :
    Yields s (turn settings key g c input)
      (fun p s' => s'.IsSound settings.host backend ∧ s'.store = s.store ∧
        (settings.engine.turn g c input).result = .ok p.2 ∧
          s.store.IsHome settings.host key.tenant p.1 g)
      (fun _ _ => False) := by
  obtain ⟨o, ho⟩ := Engine.turn_result (e := settings.engine) hc.isClosed hc.isPlaced input
  refine Yields.bind
    (P := fun p s' => s' = s ∧ p = ((settings.engine.turn g c input).conversation, o)) ?_ ?_
  · refine (ofReply_yields _).imp ?_ ?_
    · rintro ⟨c', o'⟩ s' ⟨rfl, rfl, ho'⟩
      rw [ho, Except.ok.injEq] at ho'
      exact ⟨rfl, ho' ▸ rfl⟩
    · rintro - s' ⟨-, fault, hfault⟩
      rw [ho] at hfault
      cases hfault
  · rintro p s' ⟨rfl, rfl⟩
    have hafter := hc.call hs.orderly settings.engine (.turn input)
    dsimp only
    split
    · refine Yields.bind (P := fun _ s'' => s''.IsSound settings.host backend ∧
        s''.store = s'.store) (yields_modify ⟨hs.congr rfl rfl, rfl⟩) ?_
      rintro - s'' ⟨hs'', hstore⟩
      exact yields_pure ⟨hs'', hstore, ho, hafter⟩
    · exact yields_pure ⟨hs, rfl, ho, hafter⟩

/-- A conversation that moves to another version is at home there. -/
theorem repin_yields (hs : s.IsSound settings.host backend) (hfinds : s.store.FindsAgain)
    (key : FlowKey) (c : Conversation) (version : Option Version) :
    Yields s (repin settings key c version)
      (fun p s' => s'.IsSound settings.host backend ∧ s'.store = s.store ∧
        ∃ g, s.store.IsHome settings.host key.tenant p.1 g)
      (fun _ s' => s'.IsSound settings.host backend) := by
  have hmove (v : Version) : Yields s (repin settings key c (some v))
      (fun p s' => s'.IsSound settings.host backend ∧ s'.store = s.store ∧
        ∃ g, s.store.IsHome settings.host key.tenant p.1 g)
      (fun _ s' => s'.IsSound settings.host backend) := by
    unfold repin
    refine Yields.bind (P := fun u s' => u = v ∧ s' = s) (yields_pure ⟨rfl, rfl⟩) ?_
    rintro u s' ⟨rfl, rfl⟩
    refine Yields.bind ((graph_yields hs hfinds _).imp (fun _ _ h => h) fun _ _ h => h.1) ?_
    rintro next s' ⟨hs', hstore, f, hf, -, hnext⟩
    split
    · exact yields_throw hs'
    · rename_i c' hc'
      exact yields_pure
        ⟨hs', hstore, next, Store.isHome_of_placed hs.orderly hf hnext (Engine.repin_isPlaced hc')⟩
  cases version with
  | some v => exact hmove v
  | none =>
    refine Yields.bind (P := fun _ s' => s' = s) (Yields.map ?_) ?_
    · refine (latest_yields hfinds key).imp (fun _ _ h => h.1) ?_
      rintro - s' ⟨rfl, -⟩
      exact hs
    · rintro v s' rfl
      exact hmove v

/-- Whatever is done with a conversation that is at home leaves it at home, and a turn is always
served. -/
theorem perform_yields (hs : s.IsSound settings.host backend) (hfinds : s.store.FindsAgain)
    (hc : s.store.IsHome settings.host key.tenant c g) (operation : Operation) :
    Yields s (perform settings key c operation)
      (fun p s' => s'.IsSound settings.host backend ∧ s'.store = s.store ∧
        ∃ g', s.store.IsHome settings.host key.tenant p.1 g')
      (fun _ s' => s'.IsSound settings.host backend ∧ ∀ input, operation ≠ .turn input) := by
  have hgraph := homeGraph_yields hs hfinds hc
  have hcall (k : Call) {s' : Service} (hs' : s'.IsSound settings.host backend)
      (hstore : s'.store = s.store) :
      Yields s' (ofReply (settings.engine.call g c k))
        (fun p s'' => s''.IsSound settings.host backend ∧ s''.store = s.store ∧
          ∃ g', s.store.IsHome settings.host key.tenant p.1 g')
        (fun _ s'' => s''.IsSound settings.host backend) := by
    refine (ofReply_yields _).imp ?_ ?_
    · rintro p s'' ⟨rfl, hp, -⟩
      exact ⟨hs', hstore, g, hp ▸ hc.call hs.orderly settings.engine k⟩
    · rintro - s'' ⟨rfl, -⟩
      exact hs'
  cases operation with
  | turn input =>
    refine Yields.bind (hgraph.imp (fun _ _ h => h) nofun) ?_
    rintro g' s' ⟨hs', hstore, rfl⟩
    refine (turn_yields hs' (hstore ▸ hc) input).imp ?_ nofun
    rintro p s'' ⟨hs'', hstore', -, hhome⟩
    exact ⟨hs'', hstore'.trans hstore, g', hstore ▸ hhome⟩
  | resume target =>
    refine Yields.bind (hgraph.imp (fun _ _ h => h) nofun) ?_
    rintro _ s' ⟨hs', hstore, rfl⟩
    exact (hcall (.resume target) hs' hstore).imp (fun _ _ h => h) fun _ _ h => ⟨h, nofun⟩
  | overridePath path =>
    refine Yields.bind (hgraph.imp (fun _ _ h => h) nofun) ?_
    rintro _ s' ⟨hs', hstore, rfl⟩
    exact (hcall (.overridePath path) hs' hstore).imp (fun _ _ h => h) fun _ _ h => ⟨h, nofun⟩
  | repin version =>
    exact (repin_yields hs hfinds _ c version).imp (fun _ _ h => h) fun _ _ h => ⟨h, nofun⟩

/-- A conversation is opened on a flow that has versions, unless its thread is taken or the store
refuses it. -/
theorem start_yields (hs : s.IsSound settings.host backend) (hfinds : s.store.FindsAgain)
    (key : ThreadKey) (flow : FlowId) (context : Dict Json) (refusal : Option String) :
    Yields s (executeAct settings key (.start flow context) refusal)
      (fun r s' => s'.IsSound settings.host backend ∧
        ∃ o c, r = .outcome o ∧ s'.store.conversations.get? key = some c)
      (fun _ s' => s'.IsSound settings.host backend ∧
        (s.store.conversations.get? key ≠ none ∨ s.store.versions ⟨key.tenant, flow⟩ = [] ∨
          refusal ≠ none)) := by
  refine yields_get ?_
  rw [hfinds.conversation_eq]
  refine Yields.bind (P := fun found s' => s' = s ∧ s.store.conversations.get? key = found)
    (yields_ofStore (fun _ h => ⟨rfl, Except.ok.inj h⟩) (fun _ h => by cases h)) ?_
  rintro found s' ⟨rfl, hfound⟩
  cases found with
  | some c => exact yields_throw ⟨hs, .inl (by simp [hfound])⟩
  | none =>
    refine Yields.bind ((latest_yields hfinds _).imp (fun _ _ h => h) ?_) ?_
    · rintro - s'' ⟨rfl, hnone⟩
      exact ⟨hs, .inr (.inl hnone)⟩
    · rintro f s'' ⟨rfl, hf⟩
      refine Yields.bind ((graph_yields hs hfinds _).imp (fun _ _ h => h) ?_) ?_
      · rintro - s' ⟨-, -, hnone⟩
        exact absurd rfl (hnone f hf)
      · rintro g s' ⟨hs', hstore, f', hf', -, hg⟩
        obtain ⟨hplaced, o, ho⟩ :=
          Engine.start_isPlaced settings.engine
            (Graph.IsCompiled.isClosed ⟨settings.host, f', hg⟩) context
        have hhome := Store.isHome_of_placed hs.orderly hf' hg hplaced
        refine Yields.bind
          (P := fun p s'' => s'' = s' ∧ p.1 = (settings.engine.start g context).conversation) ?_ ?_
        · refine (ofReply_yields _).imp (fun _ _ h => ⟨h.1, h.2.1⟩) ?_
          rintro - s'' ⟨-, fault, hfault⟩
          rw [ho] at hfault
          cases hfault
        · rintro ⟨c, o⟩ s'' ⟨rfl, rfl⟩
          refine (conclude_yields hs' key none (hstore ▸ hhome) o refusal).imp ?_ fun _ _ h =>
            ⟨h.1, .inr (.inr h.2)⟩
          rintro r s'' ⟨hs'', hkept, rfl⟩
          exact ⟨hs'', o, _, rfl, hkept⟩

/-- An operation on the conversation of a thread is run on its version. -/
theorem operate_yields (hs : s.IsSound settings.host backend) (hfinds : s.store.FindsAgain)
    (key : ThreadKey) (operation : Operation) (refusal : Option String) :
    Yields s (executeAct settings key (.operate operation) refusal)
      (fun r s' => s'.IsSound settings.host backend ∧
        ∃ o c, r = .outcome o ∧ s'.store.conversations.get? key = some c)
      (fun _ s' => s'.IsSound settings.host backend ∧
        (s.store.conversations.get? key = none ∨ (∀ input, operation ≠ .turn input) ∨
          refusal ≠ none)) := by
  refine yields_get ?_
  rw [hfinds.conversation_eq]
  refine Yields.bind (P := fun found s' => s' = s ∧ s.store.conversations.get? key = found)
    (yields_ofStore (fun _ h => ⟨rfl, Except.ok.inj h⟩) (fun _ h => by cases h)) ?_
  rintro found s' ⟨rfl, hfound⟩
  cases found with
  | none => exact yields_throw ⟨hs, .inl hfound⟩
  | some c =>
    obtain ⟨g, hc⟩ := hs.homes key c hfound
    refine Yields.bind
      ((perform_yields hs hfinds hc operation).imp (fun _ _ h => h) fun _ _ h =>
        ⟨h.1, .inr (.inl h.2)⟩) ?_
    rintro ⟨c', o⟩ s'' ⟨hs'', hstore, g', hc'⟩
    refine (conclude_yields hs'' key (some c) (hstore ▸ hc') o refusal).imp ?_ fun _ _ h =>
      ⟨h.1, .inr (.inr h.2)⟩
    rintro r s' ⟨hs', hkept, rfl⟩
    exact ⟨hs', o, c', rfl, hkept⟩

/-- A command leaves the service sound, whether it succeeds or fails. -/
theorem executeAct_yields (hs : s.IsSound settings.host backend) (hfinds : s.store.FindsAgain)
    (key : ThreadKey) (command : Command) (refusal : Option String) :
    Yields s (executeAct settings key command refusal)
      (fun _ s' => s'.IsSound settings.host backend)
        (fun _ s' => s'.IsSound settings.host backend) := by
  cases command with
  | start flow context =>
    exact (start_yields hs hfinds key flow context refusal).imp (fun _ _ h => h.1) fun _ _ h => h.1
  | operate operation =>
    exact (operate_yields hs hfinds key operation refusal).imp (fun _ _ h => h.1) fun _ _ h => h.1
  | close =>
    refine yields_get ?_
    refine Yields.bind (P := fun _ s' => s'.IsSound settings.host backend)
      (yields_write (fun _ => ?_) fun _ _ => hs) fun _ _ h => h
    refine hs.setConversations fun key' c' hc' => ?_
    rw [Table.get?_erase] at hc'
    split at hc'
    · cases hc'
    · exact hs.homes key' c' hc'

theorem execute_isSound (hs : s.IsSound settings.host backend) (hfinds : s.store.FindsAgain)
    (key : ThreadKey) (command : Command) (refusal : Option String) :
    (s.execute settings key command refusal).1.IsSound settings.host backend := by
  have h := executeAct_yields hs hfinds key command refusal
  unfold Yields at h
  unfold execute
  split at h <;> simp_all

/-! ### Operations on versions -/

theorem mutated_store (host : Host) (stamp : Stamp) (s : Service) (request : Request) :
    (s.mutated host stamp request).store = ((request.plan host stamp).run s.store).1 ∧
      (s.mutated host stamp request).graphs = s.graphs := by
  cases request with
  | create => simp [mutated, Request.plan, publish, Plan.run_map]
  | apply => simp [mutated, Request.plan, publish, Plan.run_map]
  | rollback => simp [mutated, Request.plan, publish, Plan.run_map]
  | merge => simp [mutated, Request.plan, publish, Plan.run_map]

theorem mutated_isSound {host : Host} (hs : s.IsSound host backend) (stamp : Stamp)
    (request : Request) :
    (s.mutated host stamp request).IsSound host backend := by
  obtain ⟨hstore, hgraphs⟩ := mutated_store host stamp s request
  have horderly := (request.plan_prepares host stamp s.store).run_isOrderly hs.orderly
  rcases (request.plan_commits host stamp).run s.store with ⟨e, hrun⟩ | ⟨f, g, hg, -, hrun⟩
  · -- nothing was published
    rw [hrun] at hstore
    exact hs.congr hstore hgraphs
  · rw [hrun] at hstore horderly
    have hextends := Store.Extends.append s.store ⟨request.tenant, f.id⟩ f
    refine ⟨?_, hstore ▸ horderly, fun key f' hf' => ?_, fun key g' hg' => ?_, fun key c hc => ?_⟩
    · rw [hstore]
      exact hs.backend
    · rw [hstore] at hf'
      rcases Store.mem_versions_append hf' with hf' | ⟨-, rfl⟩
      · exact hs.compiles key f' hf'
      · exact ⟨g, hg⟩
    · rw [hgraphs] at hg'
      obtain ⟨f', hf', hversion⟩ := hs.graphs key g' hg'
      rw [hstore]
      exact ⟨f', hextends.mem hf', hversion⟩
    · rw [hstore] at hc ⊢
      obtain ⟨g', hc'⟩ := hs.homes key c hc
      exact ⟨g', hc'.mono hextends⟩

/-! ### Whole histories -/

theorem handle_isSound (hs : s.IsSound settings.host backend) (hfinds : s.store.FindsAgain)
    (input : Input) :
    (s.handle settings input).IsSound settings.host backend := by
  cases input with
  | mutation stamp request => exact mutated_isSound hs stamp request
  | command key command refusal => exact execute_isSound hs hfinds key command refusal

/-- A store of documents finds again what it keeps all along a history; a store of values always
does. -/
def Keeps (settings : ServiceSettings) (backend : Backend) (history : List Input) : Prop :=
  backend = .memory ∨ ∀ past, past <+: history →
    ((fresh backend).after settings past).store.FindsAgain

theorem Keeps.findsAgain {history : List Input} (h : Keeps settings backend history)
    (hs : ((fresh backend).after settings history).IsSound settings.host backend) :
    ((fresh backend).after settings history).store.FindsAgain := by
  rcases h with h | h
  · exact Store.findsAgain_of_memory (hs.backend.trans h)
  · exact h history List.prefix_rfl

/-- Every history leaves the service sound. -/
theorem after_isSound {history : List Input} (h : Keeps settings backend history) :
    ((fresh backend).after settings history).IsSound settings.host backend := by
  induction history using List.reverseRecOn with
  | nil => exact fresh_isSound _ _
  | append_singleton past input ih =>
    have hpast : Keeps settings backend past :=
      h.imp id fun h p hp => h p (hp.trans (List.prefix_append _ _))
    have hs := ih hpast
    rw [after, List.foldl_append]
    exact handle_isSound hs (hpast.findsAgain hs) input

/-- A conversation can be opened on every flow that has versions.  The version that a conversation
in the store is pinned to is there, compiles, and has its position; and each of its turns is
served. -/
structure Serves (settings : ServiceSettings) (s : Service) : Prop where
  opens : ∀ key flow context, s.store.conversations.get? key = none →
      s.store.versions ⟨key.tenant, flow⟩ ≠ [] →
    ∃ s' o c, s.execute settings key (.start flow context) = (s', .ok (.outcome o)) ∧
      s'.store.conversations.get? key = some c
  pinned : ∀ key c, s.store.conversations.get? key = some c →
    ∃ f ∈ s.store.versions ⟨key.tenant, c.flow⟩, f.id = c.flow ∧ f.version = c.version ∧
      ∃ g, settings.host.compile f = .ok g ∧ c.position.LiesIn g
  turns : ∀ key c, s.store.conversations.get? key = some c → ∀ input,
    ∃ s' o c', s.execute settings key (.operate (.turn input)) = (s', .ok (.outcome o)) ∧
      s'.store.conversations.get? key = some c'

theorem IsSound.serves (hsound : s.IsSound settings.host backend) (hfinds : s.store.FindsAgain) :
    s.Serves settings where
  opens key flow context hfree hflow := by
    have hyields := start_yields hsound hfinds key flow context none
    obtain ⟨s', r, hrun, -, o, c, rfl, hkept⟩ := execute_of_yields <|
      hyields.imp (fun _ _ h => h) fun _ _ h => by
        rcases h.2 with htaken | hnone | hrefused
        · exact htaken hfree
        · exact hflow hnone
        · exact hrefused rfl
    exact ⟨s', o, c, hrun, hkept⟩
  pinned key c hc := by
    obtain ⟨g, f, hf, hversion, hg, hplaced⟩ := hsound.homes key c hc
    exact ⟨f, hf, hsound.orderly.ids _ f hf, hversion, g, hg, hplaced.position⟩
  turns key c hc input := by
    have hyields := operate_yields hsound hfinds key (.turn input) none
    obtain ⟨s', r, hrun, -, o, c', rfl, hkept⟩ := execute_of_yields <|
      hyields.imp (fun _ _ h => h) fun _ _ h => by
        rcases h.2 with hnone | hother | hrefused
        · rw [hc] at hnone
          cases hnone
        · exact hother input rfl
        · exact hrefused rfl
    exact ⟨s', o, c', hrun, hkept⟩

/-- **No conversation is ever stranded**, whatever operations and commands follow each other, and
whatever writes are refused, on a store that finds again what it keeps. -/
theorem serves_after (settings : ServiceSettings) {backend : Backend} {history : List Input}
    (h : Keeps settings backend history) :
    ((fresh backend).after settings history).Serves settings :=
  (after_isSound h).serves (h.findsAgain (after_isSound h))

/-- A store of values keeps no conversation stranded, after any history. -/
theorem serves_in_memory (settings : ServiceSettings) (history : List Input) :
    ((fresh .memory).after settings history).Serves settings :=
  have hsound := after_isSound (.inl rfl)
  hsound.serves (Store.findsAgain_of_memory hsound.backend)

end Service

/-! ### A conversation on a published flow -/

namespace Samples

/-- The settings of a service that is run without any of its own. -/
def attended : ServiceSettings := ⟨.builtin, .ofSettings {}, 1⟩

/-- An author publishes `Samples.detour`. -/
def publishing : Service.Input := .mutation ⟨"a", default⟩ (.create "acme" (detour 1) none)

theorem publishing_store : ((Service.fresh .memory).after attended [publishing]).store =
    (Service.fresh .memory).store.append ⟨"acme", "detour"⟩
      (Publisher.stamped ⟨"a", default⟩ none "initial version" none (detour 1)) := by
  show ((Service.fresh .memory).mutated .builtin ⟨"a", default⟩
    (.create "acme" (detour 1) none)).store = _
  rw [(Service.mutated_store _ _ _ _).1, Request.plan, Publisher.create,
    Plan.map_bind_pure fun _ => rfl, Publisher.publishNext, compile_detour]
  rfl

end Samples

/-- Once the flow is published a conversation is opened on it, and then all its turns are served. -/
theorem Service.serves_after_publishing :
    ∃ s o c,
      ((fresh .memory).after Samples.attended [Samples.publishing]).execute Samples.attended
          ⟨"acme", "ada"⟩ (.start "detour" []) = (s, .ok (.outcome o)) ∧
        s.store.conversations.get? ⟨"acme", "ada"⟩ = some c ∧
        ∀ input, ∃ s' o',
          s.execute Samples.attended ⟨"acme", "ada"⟩ (.operate (.turn input)) =
            (s', .ok (.outcome o')) := by
  have hversions : ((fresh .memory).after Samples.attended [Samples.publishing]).store.versions
      ⟨"acme", "detour"⟩ ≠ [] := by
    rw [Samples.publishing_store]
    exact List.ne_nil_of_mem (Store.append_mem _ _ _)
  have hfree :
      ((fresh .memory).after Samples.attended [Samples.publishing]).store.conversations.get?
      ⟨"acme", "ada"⟩ = none := by
    rw [Samples.publishing_store]
    rfl
  obtain ⟨s, o, c, hstart, hc⟩ :=
    (serves_after Samples.attended (.inl rfl)).opens ⟨"acme", "ada"⟩ "detour" [] hfree hversions
  have hafter : (fresh .memory).after Samples.attended
      [Samples.publishing, .command ⟨"acme", "ada"⟩ (.start "detour" [])] = s :=
    congrArg Prod.fst hstart
  refine ⟨s, o, c, hstart, hc, fun input => ?_⟩
  obtain ⟨s', o', -, hturn, -⟩ :=
    (hafter ▸ serves_after Samples.attended (.inl rfl)).turns _ c hc input
  exact ⟨s', o', hturn⟩

end Parley

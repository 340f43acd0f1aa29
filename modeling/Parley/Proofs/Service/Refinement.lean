import Parley.Proofs.Collections
import Parley.Proofs.Service.Histories

/-!
# The service as seen from one thread

A thread sees none of what the service keeps beside its store.  Whatever versions are published and
whatever the other threads do, its commands are answered as by a session: at most one conversation,
on which the operations of the engine are run with a graph that is compiled each time.

* `Session`, `Session.execute`: what a thread sees;
* `Service.session`: the session of a thread of a service;
* `Service.Act.Follows`: an act that does what a computation without the service does;
* `Service.KeepsGraphs`: the graphs that are kept are few, and are those that would be compiled;
* `Service.execute_session`: a command is run in the session of its thread;
* `Service.Arrival`, `Service.transcript`, `Session.transcript`: what arrives, and what a thread is
  answered;
* `Service.transcript_eq`, `Service.transcript_in_memory`.
-/

namespace Parley

/-! ### Sessions -/

/-- The versions that were published, and the conversation of a thread if it has one. -/
structure Session where
  key : ThreadKey
  versions : Store := {}
  held : Option Conversation := none

namespace Session

/-- The graph of a version, compiled from what the store has of it. -/
def graph (host : Host) (s : Session) (key : GraphKey) : Except Failure Graph := do
  match ← (s.versions.load key.flow key.version).mapError .store with
  | none => throw (.flowNotFound key.flow (some key.version))
  | some f => (host.compile f).mapError .compile

/-- The last version of a flow. -/
def latest (s : Session) (key : FlowKey) : Except Failure Version := do
  match ← (s.versions.latest key).mapError .store with
  | none => throw (.flowNotFound key none)
  | some f => pure f.version

/-- The conversation as the store finds it again; one that keeps values finds it as it was. -/
def conversation (s : Session) : Except Failure (Option Conversation) :=
  (s.held.mapM s.versions.keptConversation).mapError .store

/-- What is kept in memory is found as it is held. -/
theorem conversation_of_memory {s : Session} (h : s.versions.backend = .memory) :
    s.conversation = .ok s.held := by
  have hkept : s.held.mapM s.versions.keptConversation = .ok s.held := by
    refine Store.mapM_self fun c _ => ?_
    unfold Store.keptConversation
    rw [h]
  rw [conversation, hkept]
  rfl

/-- The conversation that an operation of the engine leaves behind, with its outcome. -/
def ofReply (r : Reply) : Except Failure (Conversation × Outcome) := do
  let o ← r.result.mapError .conversation
  pure (r.conversation, o)

/-- Open a conversation on the last version of a flow. -/
def start (settings : ServiceSettings) (s : Session) (flow : FlowId) (context : Dict Json) :
    Except Failure (Conversation × Outcome) := do
  match ← s.conversation with
  | some _ => throw (.threadTaken s.key.thread)
  | none => do
      let version ← s.latest ⟨s.key.tenant, flow⟩
      let g ← s.graph settings.host ⟨⟨s.key.tenant, flow⟩, version⟩
      ofReply (settings.engine.start g context)

/-- Run an operation of the engine on a conversation, with the graph of the version that it is
pinned to or moves to. -/
def perform (settings : ServiceSettings) (s : Session) (c : Conversation) :
    Operation → Except Failure (Conversation × Outcome)
  | .turn input => do
      let g ← s.graph settings.host ⟨⟨s.key.tenant, c.flow⟩, c.version⟩
      ofReply (settings.engine.turn g c input)
  | .resume target => do
      let g ← s.graph settings.host ⟨⟨s.key.tenant, c.flow⟩, c.version⟩
      ofReply (settings.engine.resume g c target)
  | .overridePath path => do
      let g ← s.graph settings.host ⟨⟨s.key.tenant, c.flow⟩, c.version⟩
      ofReply (settings.engine.overridePath g c path)
  | .repin version => do
      let version ← version.elim (s.latest ⟨s.key.tenant, c.flow⟩) pure
      let next ← s.graph settings.host ⟨⟨s.key.tenant, c.flow⟩, version⟩
      let moved ← (Engine.repin next c).mapError .conversation
      pure (moved, Engine.position next moved)

/-- Run an operation on the conversation that is held. -/
def operate (settings : ServiceSettings) (s : Session) (operation : Operation) :
    Except Failure (Conversation × Outcome) := do
  match ← s.conversation with
  | none => throw (.conversationNotFound s.key)
  | some c => s.perform settings c operation

/-- Hold what has come of a command; a failed one changes nothing. -/
def settle (s : Session) : Except Failure (Conversation × Outcome) →
    Session × Except Failure CommandReply
  | .ok (c, o) => ({ s with held := some c }, .ok (.outcome o))
  | .error e => (s, .error e)

/-- Run a command. -/
def execute (settings : ServiceSettings) (s : Session) :
    Command → Session × Except Failure CommandReply
  | .start flow context => s.settle (s.start settings flow context)
  | .operate operation => s.settle (s.operate settings operation)
  | .close => ({ s with held := none }, .ok (.closed s.held.isSome))

/-- Run a command on the conversation as it is held, with no store to find it in. -/
def executeHeld (settings : ServiceSettings) (s : Session) :
    Command → Session × Except Failure CommandReply
  | .start flow context =>
      match s.held with
      | some _ => (s, .error (.threadTaken s.key.thread))
      | none => s.settle do
          let version ← s.latest ⟨s.key.tenant, flow⟩
          let g ← s.graph settings.host ⟨⟨s.key.tenant, flow⟩, version⟩
          ofReply (settings.engine.start g context)
  | .operate operation =>
      match s.held with
      | none => (s, .error (.conversationNotFound s.key))
      | some c => s.settle (s.perform settings c operation)
  | .close => ({ s with held := none }, .ok (.closed s.held.isSome))

/-- A store that keeps values makes no difference. -/
theorem execute_of_memory {s : Session} (h : s.versions.backend = .memory)
    (settings : ServiceSettings) (command : Command) :
    s.execute settings command = s.executeHeld settings command := by
  cases command with
  | start flow context =>
    rw [execute, start, conversation_of_memory h, executeHeld]
    cases s.held <;> rfl
  | operate operation =>
    rw [execute, operate, conversation_of_memory h, executeHeld]
    cases s.held <;> rfl
  | close => rfl

/-- A command changes nothing but the conversation that is held. -/
theorem execute_held (settings : ServiceSettings) (s : Session) (command : Command) :
    (s.execute settings command).1 = { s with held := (s.execute settings command).1.held } := by
  have hsettle (r : Except Failure (Conversation × Outcome)) :
      (s.settle r).1 = { s with held := (s.settle r).1.held } := by
    rcases r with e | ⟨c, o⟩ <;> rfl
  cases command with
  | start => exact hsettle _
  | operate => exact hsettle _
  | close => rfl

end Session

namespace Service

/-- The session of a thread. -/
def session (s : Service) (key : ThreadKey) : Session where
  key := key
  versions := { s.store with conversations := [] }
  held := s.store.conversations.get? key

namespace Act

/-! ### Acts that follow a computation -/

variable {α β γ δ : Type} {s : Service} {P : α → β → Service → Prop} {Q : γ → δ → Service → Prop}
    {E : Service → Prop}

/-- From a service on, an act succeeds when a computation does, with values that are related, and
fails as it does. -/
def Follows (s : Service) (x : Act α) (r : Except Failure β) (P : α → β → Service → Prop)
    (E : Service → Prop) : Prop :=
  Yields s x (fun a s' => ∃ b, r = .ok b ∧ P a b s') (fun e s' => r = .error e ∧ E s')

theorem Follows.bind {x : Act α} {r : Except Failure β} {f : α → Act γ} {q : β → Except Failure δ}
    (hx : Follows s x r P E) (hf : ∀ a b s', P a b s' → Follows s' (f a) (q b) Q E) :
    Follows s (x >>= f) (r >>= q) Q E := by
  unfold Follows at hx
  refine Yields.bind (P := fun a s' => ∃ b, r = .ok b ∧ P a b s') (hx.imp (fun _ _ h => h) ?_) ?_
  · rintro e s' ⟨rfl, he⟩
    exact ⟨rfl, he⟩
  · rintro a s' ⟨b, rfl, hab⟩
    exact hf a b s' hab

theorem follows_pure {a : α} {b : β} (h : P a b s) : Follows s (pure a) (.ok b) P E := ⟨b, rfl, h⟩

theorem follows_throw {e : Failure} (h : E s) :
    Follows s (throw e : Act α) (throw e : Except Failure β) P E := ⟨rfl, h⟩

theorem follows_get {f : Service → Act α} {r : Except Failure β} (h : Follows s (f s) r P E) :
    Follows s (get >>= f : Act α) r P E := h

theorem follows_ofStore {r : Except StoreFault α} (hs : E s) :
    Follows s (ofStore r) (r.mapError .store) (fun a b s' => a = b ∧ s' = s) E := by
  cases r with
  | ok a => exact ⟨a, rfl, rfl, rfl⟩
  | error fault => exact ⟨rfl, hs⟩

end Act

open Act

/-! ### The graphs that are kept -/

variable {settings : ServiceSettings} {s s' : Service} {key : ThreadKey}

/-- The graphs that are kept are no more than there is room for, and are those that would be
compiled. -/
structure KeepsGraphs (settings : ServiceSettings) (s : Service) : Prop where
  few : s.graphs.length ≤ settings.graphCache
  compiled : ∀ key g, s.graphs.get? key = some g →
    ∃ f, s.store.load key.flow key.version = .ok (some f) ∧ settings.host.compile f = .ok g

theorem fresh_keepsGraphs (settings : ServiceSettings) (store : Store) :
    KeepsGraphs settings { store } :=
  ⟨Nat.zero_le _, nofun⟩

/-- As long as what was found is found again, the graphs stay right. -/
theorem KeepsGraphs.congr (hs : s.KeepsGraphs settings) (hgraphs : s'.graphs = s.graphs)
    (hstore : ∀ key v f, s.store.load key v = .ok (some f) → s'.store.load key v = .ok (some f)) :
    s'.KeepsGraphs settings := by
  refine ⟨hgraphs ▸ hs.few, fun key g hg => ?_⟩
  obtain ⟨f, hf, hcompile⟩ := hs.compiled key g (hgraphs ▸ hg)
  exact ⟨f, hstore _ _ f hf, hcompile⟩

/-- There is always room for one more graph, if need be after dropping the others. -/
theorem KeepsGraphs.keep (hroom : 0 < settings.graphCache) (hs : s.KeepsGraphs settings)
    {key : GraphKey} {f : Flow} {g : Graph} (hf : s.store.load key.flow key.version = .ok (some f))
    (hg : settings.host.compile f = .ok g) :
    KeepsGraphs settings
      { s with
        graphs :=
          Table.set (if settings.graphCache ≤ s.graphs.length then [] else s.graphs) key g } := by
  refine ⟨(Table.length_set_le _ _ _).trans ?_, fun key' g' hg' => ?_⟩
  · split
    · exact hroom
    · omega
  · rw [Table.get?_set] at hg'
    split at hg'
    · rename_i heq
      cases hg'
      exact heq ▸ ⟨f, hf, hg⟩
    · split at hg'
      · cases hg'
      · exact hs.compiled key' g' hg'

/-! ### Acts in a session -/

/-- The store is that of a service as it was, and the graphs are right. -/
structure Agrees (settings : ServiceSettings) (s₀ s : Service) : Prop where
  store : s.store = s₀.store
  graphs : s.KeepsGraphs settings

variable {s₀ : Service} (hroom : 0 < settings.graphCache) (hs : s₀.Agrees settings s)
include hs

theorem Agrees.follows_load (k : GraphKey) :
    Follows s (ofStore (s.store.load k.flow k.version))
      ((s₀.store.load k.flow k.version).mapError Failure.store) (fun f f' s' => f = f' ∧ s' = s ∧
        s.store.load k.flow k.version = .ok f) (s₀.Agrees settings) := by
  rw [← hs.store]
  cases hload : s.store.load k.flow k.version with
  | ok found => exact ⟨found, rfl, rfl, rfl, rfl⟩
  | error fault => exact ⟨rfl, hs⟩

include hroom in
/-- A graph that is kept is the one that would be compiled. -/
theorem graph_follows (key : ThreadKey) (k : GraphKey) :
    Follows s (graph settings k) ((s₀.session key).graph settings.host k)
      (fun g g' s' => g = g' ∧ s₀.Agrees settings s') (s₀.Agrees settings) := by
  refine follows_get ?_
  split
  · -- the store still has the flow that this graph was compiled from
    rename_i g hg
    obtain ⟨f, hf, hcompile⟩ := hs.graphs.compiled k g hg
    refine ⟨g, ?_, rfl, hs⟩
    show (s₀.store.load k.flow k.version).mapError Failure.store >>= _ = _
    rw [← hs.store, hf]
    show (settings.host.compile f).mapError Failure.compile = _
    rw [hcompile]
    rfl
  · refine follows_get (Follows.bind (hs.follows_load k) ?_)
    rintro found _ s' ⟨rfl, rfl, hload⟩
    cases found with
    | none => exact follows_throw hs
    | some f =>
      cases hcompile : settings.host.compile f with
      | error e =>
        simp only [hcompile]
        exact follows_throw hs
      | ok g =>
        simp only [hcompile]
        exact ⟨g, rfl, rfl, hs.store, hs.graphs.keep hroom hload hcompile⟩

theorem latest_follows (key : ThreadKey) (k : FlowKey) :
    Follows s (latest k) ((s₀.session key).latest k)
      (fun f v s' => f.version = v ∧ s' = s) (s₀.Agrees settings) := by
  refine follows_get ?_
  rw [hs.store]
  refine Follows.bind (follows_ofStore hs) ?_
  rintro found _ s' ⟨rfl, rfl⟩
  cases found with
  | none => exact follows_throw hs
  | some f => exact follows_pure ⟨rfl, rfl⟩

theorem ofReply_follows (r : Reply) :
    Follows s (ofReply r) (Session.ofReply r) (fun p p' s' => p = p' ∧ s₀.Agrees settings s')
      (s₀.Agrees settings) := by
  obtain ⟨c, fault | o⟩ := r
  · exact ⟨rfl, hs⟩
  · exact ⟨_, rfl, rfl, hs⟩

theorem turn_follows (key : ThreadKey) (g : Graph) (c : Conversation) (input : TurnInput) :
    Follows s (turn settings key g c input) (Session.ofReply (settings.engine.turn g c input))
      (fun p p' s' => p = p' ∧ s₀.Agrees settings s') (s₀.Agrees settings) := by
  rw [← bind_pure (Session.ofReply _)]
  refine Follows.bind (ofReply_follows hs _) ?_
  rintro p _ s' ⟨rfl, hs'⟩
  dsimp only
  split
  · -- an event is told of
    exact ⟨_, rfl, rfl, hs'.store, hs'.graphs.congr rfl fun _ _ _ h => h⟩
  · exact follows_pure ⟨rfl, hs'⟩

include hroom in
theorem repin_follows (key : ThreadKey) (k : FlowKey) (c : Conversation)
    (version : Option Version) :
    Follows s (repin settings k c version)
      (do let version ← version.elim ((s₀.session key).latest k) pure
          let next ← (s₀.session key).graph settings.host ⟨k, version⟩
          let moved ← (Engine.repin next c).mapError .conversation
          pure (moved, Engine.position next moved))
      (fun p p' s' => p = p' ∧ s₀.Agrees settings s') (s₀.Agrees settings) := by
  have hmove (v : Version) : Follows s (repin settings k c (some v))
      (do let version ← pure v
          let next ← (s₀.session key).graph settings.host ⟨k, version⟩
          let moved ← (Engine.repin next c).mapError .conversation
          pure (moved, Engine.position next moved))
      (fun p p' s' => p = p' ∧ s₀.Agrees settings s') (s₀.Agrees settings) := by
    refine Follows.bind (r := pure v) (P := fun v v' s' => v = v' ∧ s' = s)
      (follows_pure ⟨rfl, rfl⟩) ?_
    rintro v _ s' ⟨rfl, rfl⟩
    refine Follows.bind (graph_follows hroom hs key _) ?_
    rintro next _ s' ⟨rfl, hs'⟩
    cases hmoved : Engine.repin next c with
    | error fault =>
      simp only
      exact follows_throw hs'
    | ok moved =>
      simp only
      exact follows_pure ⟨rfl, hs'⟩
  cases version with
  | some v => exact hmove v
  | none =>
    refine Follows.bind (P := fun v v' s' => v = v' ∧ s' = s) ?_ ?_
    · show Follows s (latest k >>= fun f => pure f.version) ((s₀.session key).latest k) _ _
      rw [← bind_pure ((s₀.session key).latest k)]
      refine Follows.bind (latest_follows hs key k) ?_
      rintro f _ s' ⟨rfl, rfl⟩
      exact follows_pure ⟨rfl, rfl⟩
    · rintro v _ s' ⟨rfl, rfl⟩
      exact hmove v

include hroom in
theorem perform_follows (key : ThreadKey) (c : Conversation) (operation : Operation) :
    Follows s (perform settings key c operation) ((s₀.session key).perform settings c operation)
      (fun p p' s' => p = p' ∧ s₀.Agrees settings s') (s₀.Agrees settings) := by
  have hgraph := graph_follows hroom hs key ⟨⟨key.tenant, c.flow⟩, c.version⟩
  cases operation with
  | turn input =>
    refine Follows.bind hgraph ?_
    rintro g _ s' ⟨rfl, hs'⟩
    exact turn_follows hs' key g c input
  | resume target =>
    refine Follows.bind hgraph ?_
    rintro g _ s' ⟨rfl, hs'⟩
    exact ofReply_follows hs' _
  | overridePath path =>
    refine Follows.bind hgraph ?_
    rintro g _ s' ⟨rfl, hs'⟩
    exact ofReply_follows hs' _
  | repin version => exact repin_follows hroom hs key _ c version

/-! ### Commands -/

theorem conversation_follows (key : ThreadKey) :
    Follows s (ofStore (s.store.conversation key)) (s₀.session key).conversation
      (fun found found' s' => found = found' ∧ s' = s) (s₀.Agrees settings) := by
  rw [hs.store]
  exact follows_ofStore hs

/-- The conversation of a thread is stored, and nothing else of the store changes. -/
theorem conclude_follows (key : ThreadKey) (before : Option Conversation)
    (p : Conversation × Outcome) :
    Follows s (conclude key before p.1 p.2) (.ok p)
      (fun reply p s' => reply = .outcome p.2 ∧ s'.KeepsGraphs settings ∧
        s'.store = s₀.store.save key p.1)
      (s₀.Agrees settings) :=
  ⟨p, rfl, rfl, hs.graphs.congr rfl fun _ _ _ h => h, hs.store ▸ rfl⟩

include hroom in
theorem start_follows (key : ThreadKey) (flow : FlowId) (context : Dict Json) :
    Follows s (start settings key flow context) ((s₀.session key).start settings flow context)
      (fun reply p s' => reply = .outcome p.2 ∧ s'.KeepsGraphs settings ∧
        s'.store = s₀.store.save key p.1)
      (s₀.Agrees settings) := by
  refine follows_get (Follows.bind (conversation_follows hs key) ?_)
  rintro found _ s' ⟨rfl, rfl⟩
  cases found with
  | some c => exact follows_throw hs
  | none =>
    refine Follows.bind (latest_follows hs key _) ?_
    rintro f _ s' ⟨rfl, rfl⟩
    refine Follows.bind (graph_follows hroom hs key _) ?_
    rintro g _ s' ⟨rfl, hs'⟩
    rw [← bind_pure (Session.ofReply _)]
    refine Follows.bind (ofReply_follows hs' _) ?_
    rintro p _ s' ⟨rfl, hs'⟩
    exact conclude_follows hs' key none p

include hroom in
theorem operate_follows (key : ThreadKey) (operation : Operation) :
    Follows s (executeAct settings key (.operate operation))
      ((s₀.session key).operate settings operation) (fun reply p s' => reply = .outcome p.2 ∧
        s'.KeepsGraphs settings ∧ s'.store = s₀.store.save key p.1)
      (s₀.Agrees settings) := by
  refine follows_get (Follows.bind (conversation_follows hs key) ?_)
  rintro found _ s' ⟨rfl, rfl⟩
  cases found with
  | none => exact follows_throw hs
  | some c =>
    show Follows _ _ ((s₀.session key).perform settings c operation) _ _
    rw [← bind_pure ((s₀.session key).perform settings c operation)]
    refine Follows.bind (perform_follows hroom hs key c operation) ?_
    rintro p _ s' ⟨rfl, hs'⟩
    exact conclude_follows hs' key (some c) p

omit hs

/-- What has come of a command is settled in the session of its thread, and the other threads do not
see it. -/
theorem settle_of_follows {command : Command} {r : Except Failure (Conversation × Outcome)}
    (h : Follows s (executeAct settings key command) r
      (fun reply p s' => reply = .outcome p.2 ∧ s'.KeepsGraphs settings ∧
        s'.store = s.store.save key p.1)
      (s.Agrees settings)) :
    (s.execute settings key command).1.KeepsGraphs settings ∧
      (s.execute settings key command).2 = ((s.session key).settle r).2 ∧
      ∀ key', (s.execute settings key command).1.session key' =
        if key = key' then ((s.session key).settle r).1 else s.session key' := by
  unfold Follows Yields at h
  unfold execute
  rcases hrun : (executeAct settings key command).run.run s with ⟨e | reply, s'⟩
  · -- the store is as it was
    rw [hrun] at h
    obtain ⟨rfl, hstore, hgraphs⟩ := h
    refine ⟨hgraphs, rfl, fun key' => ?_⟩
    unfold session
    rw [hstore]
    split
    · rename_i heq
      exact heq ▸ rfl
    · rfl
  · rw [hrun] at h
    obtain ⟨⟨c, o⟩, rfl, rfl, hgraphs, hstore⟩ := h
    refine ⟨hgraphs, rfl, fun key' => ?_⟩
    unfold session
    rw [hstore, Store.save, Table.get?_set]
    split
    · rename_i heq
      exact heq ▸ rfl
    · rfl

/-- A command is run in the session of its thread, and the other threads do not see it. -/
theorem execute_session (hroom : 0 < settings.graphCache) (hs : s.KeepsGraphs settings)
    (key : ThreadKey) (command : Command) :
    (s.execute settings key command).1.KeepsGraphs settings ∧
      (s.execute settings key command).2 = ((s.session key).execute settings command).2 ∧
      ∀ key', (s.execute settings key command).1.session key' =
        if key = key' then ((s.session key).execute settings command).1 else s.session key' := by
  cases command with
  | start flow context => exact settle_of_follows (start_follows hroom ⟨rfl, hs⟩ key flow context)
  | operate operation => exact settle_of_follows (operate_follows hroom ⟨rfl, hs⟩ key operation)
  | close =>
    refine ⟨hs.congr rfl fun _ _ _ h => h, rfl, fun key' => ?_⟩
    show (⟨key', _, Table.get? (s.store.conversations.erase key) key'⟩ : Session) = _
    rw [Table.get?_erase]
    split
    · rename_i heq
      exact heq ▸ rfl
    · rfl

end Service

/-! ### Histories -/

/-- The store after a publication; one that is refused changes nothing. -/
def Store.offered (s : Store) (tenant : TenantId) (f : Flow) (expected : Option Version) : Store :=
  match s.publish tenant f expected with
  | .ok (s, _) => s
  | .error _ => s

/-- A version is appended, or nothing changes. -/
theorem Store.offered_cases (s : Store) (tenant : TenantId) (f : Flow) (expected : Option Version) :
    s.offered tenant f expected = s ∨ s.offered tenant f expected = s.append ⟨tenant, f.id⟩ f := by
  unfold offered
  rcases s.publish_cases tenant f expected with ⟨-, h⟩ | ⟨-, -, -, h⟩ | ⟨-, fault, h⟩
  · exact .inl (by rw [h])
  · exact .inr (by rw [h])
  · exact .inl (by rw [h])

/-- Publications have nothing to do with conversations. -/
theorem Store.publish_conversations (s : Store) (conversations : Table ThreadKey Conversation)
    (tenant : TenantId) (f : Flow) (expected : Option Version) :
    Store.publish { s with conversations } tenant f expected =
      (s.publish tenant f expected).map fun p => ({ p.1 with conversations }, p.2) := by
  rw [publish_eq, publish_eq]
  have htop : ({ s with conversations } : Store).top ⟨tenant, f.id⟩ = s.top ⟨tenant, f.id⟩ := rfl
  have hcheck : ({ s with conversations } : Store).checkVersion f.version =
      s.checkVersion f.version := rfl
  rw [htop, hcheck]
  split
  · rfl
  · split
    · rfl
    · cases s.checkVersion f.version <;> rfl

theorem Store.offered_conversations (s : Store) (conversations : Table ThreadKey Conversation)
    (tenant : TenantId) (f : Flow) (expected : Option Version) :
    Store.offered { s with conversations } tenant f expected =
      { s.offered tenant f expected with conversations } := by
  unfold offered
  rw [publish_conversations]
  cases s.publish tenant f expected <;> rfl

/-- What has been found of a version is found when more versions follow. -/
theorem Store.load_append {s : Store} {key key' : FlowKey} {v : Version} {f f' : Flow}
    (h : s.load key v = .ok (some f)) : (s.append key' f').load key v = .ok (some f) := by
  unfold load at h ⊢
  obtain ⟨u, hcheck, h⟩ := bind_eq_ok.1 h
  refine bind_eq_ok.2 ⟨u, hcheck, ?_⟩
  rw [versions_append]
  split
  · rename_i heq
    subst heq
    obtain ⟨-, h⟩ | ⟨found, f'', hfind, hkept, h⟩ := option_mapM_eq_ok.1 h
    · cases h
    · cases h
      exact option_mapM_eq_ok.2 (.inr ⟨found, f, by rw [List.find?_append, hfind]; rfl, hkept, rfl⟩)
  · exact h

/-- What arrives at a service: versions of flows, and commands of threads. -/
inductive Service.Arrival
  | version (tenant : TenantId) (flow : Flow) (expected : Option Version)
  | command (key : ThreadKey) (command : Command)

open Service (Arrival)

namespace Service

variable (settings : ServiceSettings)

/-- The service after an arrival. -/
def receive (s : Service) : Arrival → Service
  | .version tenant f expected => { s with store := s.store.offered tenant f expected }
  | .command key command => (s.execute settings key command).1

/-- What a thread is answered: each reply to a command of its own, and the conversation that is then
in the store. -/
def transcript (key : ThreadKey) :
    Service → List Arrival → List (Except Failure CommandReply × Option Conversation)
  | _, [] => []
  | s, .version tenant f expected :: rest =>
    transcript key (s.receive settings (.version tenant f expected)) rest
  | s, .command key' command :: rest =>
      let s' := s.receive settings (.command key' command)
      if key' = key then
        ((s.execute settings key' command).2, s'.store.conversations.get? key) ::
          transcript key s' rest
      else transcript key s' rest

end Service

namespace Session

variable (settings : ServiceSettings)

/-- What a session answers: each reply, and the conversation that it then holds.  Commands of others
pass it by. -/
def transcript : Session → List Arrival → List (Except Failure CommandReply × Option Conversation)
  | _, [] => []
  | s, .version tenant f expected :: rest =>
      transcript { s with versions := s.versions.offered tenant f expected } rest
  | s, .command key command :: rest =>
      if key = s.key then
        let s' := (s.execute settings command).1
        ((s.execute settings command).2, s'.held) :: transcript s' rest
      else transcript s rest

/-- What a session answers that holds its conversation as it is. -/
def transcriptHeld :
    Session → List Arrival → List (Except Failure CommandReply × Option Conversation)
  | _, [] => []
  | s, .version tenant f expected :: rest =>
      transcriptHeld { s with versions := s.versions.offered tenant f expected } rest
  | s, .command key command :: rest =>
      if key = s.key then
        let s' := (s.executeHeld settings command).1
        ((s.executeHeld settings command).2, s'.held) :: transcriptHeld s' rest
      else transcriptHeld s rest

/-- A store that keeps values makes no difference to a whole history. -/
theorem transcript_of_memory {s : Session} (h : s.versions.backend = .memory)
    (history : List Arrival) :
    s.transcript settings history = s.transcriptHeld settings history := by
  induction history generalizing s with
  | nil => rfl
  | cons a rest ih =>
    cases a with
    | version tenant f expected =>
      refine ih ?_
      rcases s.versions.offered_cases tenant f expected with hoffered | hoffered
        <;> rw [hoffered] <;> exact h
    | command key command =>
      have hrest := ih (s := (s.execute settings command).1) (by rw [execute_held, h])
      rw [transcript, transcriptHeld, ← execute_of_memory h, ih h]
      dsimp only
      rw [hrest]

end Session

namespace Service

variable {settings : ServiceSettings} {s : Service}

theorem receive_version_keepsGraphs (hs : s.KeepsGraphs settings) (tenant : TenantId) (f : Flow)
    (expected : Option Version) : (s.receive settings (.version tenant f expected)).KeepsGraphs
      settings := by
  refine hs.congr rfl fun key v f' hload => ?_
  show (s.store.offered tenant f expected).load key v = _
  rcases s.store.offered_cases tenant f expected with h | h <;> rw [h]
  · exact hload
  · exact Store.load_append hload

theorem receive_keepsGraphs (hroom : 0 < settings.graphCache) (hs : s.KeepsGraphs settings)
    (a : Arrival) :
    (s.receive settings a).KeepsGraphs settings := by
  cases a with
  | version tenant f expected => exact receive_version_keepsGraphs hs tenant f expected
  | command key command => exact (execute_session hroom hs key command).1

theorem receive_version_session (tenant : TenantId) (f : Flow) (expected : Option Version)
    (key : ThreadKey) :
    (s.receive settings (.version tenant f expected)).session key =
      { s.session key with versions := (s.session key).versions.offered tenant f expected } := by
  have hconversations : (s.store.offered tenant f expected).conversations =
      s.store.conversations := by
    rcases s.store.offered_cases tenant f expected with h | h
    · rw [h]
    · rw [h]
      rfl
  show (⟨key, _, (s.store.offered tenant f expected).conversations.get? key⟩ : Session) =
    ⟨key, _, _⟩
  rw [hconversations, session, Store.offered_conversations]
  rfl

/-- From a service whose graphs are right, a thread is answered as by its session. -/
theorem transcript_session (hroom : 0 < settings.graphCache) (key : ThreadKey)
    (history : List Arrival) (hs : s.KeepsGraphs settings) :
    s.transcript settings key history = (s.session key).transcript settings history := by
  induction history generalizing s with
  | nil => rfl
  | cons a rest ih =>
    have hafter := ih (receive_keepsGraphs hroom hs a)
    cases a with
    | version tenant f expected =>
      rw [transcript, hafter, receive_version_session]
      rfl
    | command key' command =>
      obtain ⟨-, hreply, hsession⟩ := execute_session hroom hs key' command
      rw [transcript, Session.transcript]
      by_cases hkey : key' = key
      · subst hkey
        have hsession : (s.receive settings (.command key' command)).session key' = _ :=
          (hsession key').trans (if_pos rfl)
        have hheld : (s.receive settings (.command key' command)).store.conversations.get? key' =
            _ :=
          congrArg Session.held hsession
        rw [if_pos rfl, hafter, hreply, hheld, hsession]
        exact (if_pos rfl).symm
      · rw [if_neg hkey, hafter, receive, hsession key, if_neg hkey]
        exact (if_neg hkey).symm

/-- **The service refines the engine.**  Whatever versions are published and whatever commands
arrive, each thread is answered as by a session of its own, in which the engine is run with a graph
compiled for each command, and its conversation in the store is that of the session.  The graphs
that are kept never outgrow their room. -/
theorem transcript_eq (settings : ServiceSettings) (hroom : 0 < settings.graphCache)
    (backend : Backend) (key : ThreadKey) (history : List Arrival) :
    (fresh backend).transcript settings key history =
        Session.transcript settings { key, versions := { backend } } history ∧
      (history.foldl (receive settings) (fresh backend)).graphs.length ≤ settings.graphCache := by
  have hfresh : (fresh backend).KeepsGraphs settings := fresh_keepsGraphs settings _
  refine ⟨transcript_session hroom key history hfresh, ?_⟩
  suffices (history.foldl (receive settings) (fresh backend)).KeepsGraphs settings from this.few
  induction history using List.reverseRecOn with
  | nil => exact hfresh
  | append_singleton past a ih =>
    rw [List.foldl_append]
    exact receive_keepsGraphs hroom ih a

/-- On a store of values, the conversation of the session is a value like any other: what a command
has left behind is what the next one finds. -/
theorem transcript_in_memory (settings : ServiceSettings) (hroom : 0 < settings.graphCache)
    (key : ThreadKey) (history : List Arrival) :
    (fresh .memory).transcript settings key history =
      Session.transcriptHeld settings { key } history :=
  (transcript_session hroom key history (fresh_keepsGraphs settings _)).trans
    (Session.transcript_of_memory settings rfl history)

end Service

/-! ### A thread that is opened twice -/

namespace Samples

/-- `Samples.detour` is published, and a thread is opened on it two times. -/
def reopening : List Service.Arrival := [
  .version "acme" (detour 1) none,
  .command ⟨"acme", "ada"⟩ (.start "detour" []),
  .command ⟨"acme", "ada"⟩ (.start "detour" [])]

/-- The session of the thread once the flow is published. -/
def published : Session where
  key := ⟨"acme", "ada"⟩
  versions := (Service.fresh .memory).store.append ⟨"acme", "detour"⟩ (detour 1)

theorem published_graph :
    published.graph .builtin ⟨⟨"acme", "detour"⟩, 1⟩ = .ok (detourGraph 1) := by
  show (Host.builtin.compile (detour 1)).mapError .compile = _
  rw [compile_detour]
  rfl

end Samples

/-- The thread is opened once, and the second attempt leaves the conversation as it is. -/
theorem Service.transcript_eq_reopening :
    0 < Samples.attended.graphCache ∧
      ∃ o c, (fresh .memory).transcript Samples.attended ⟨"acme", "ada"⟩ Samples.reopening =
        [(.ok (.outcome o), some c), (.error (.threadTaken "ada"), some c)] := by
  refine ⟨by decide, ?_⟩
  rw [(transcript_eq Samples.attended (by decide) .memory ⟨"acme", "ada"⟩ Samples.reopening).1]
  have hclosed := Graph.IsCompiled.isClosed ⟨_, _, Samples.compile_detour 1⟩
  obtain ⟨-, o, ho⟩ := Engine.start_isPlaced Samples.attended.engine hclosed []
  let r := Samples.attended.engine.start (Samples.detourGraph 1) []
  have hstart : Samples.published.start Samples.attended "detour" [] = .ok (r.conversation, o) := by
    show (Samples.published.graph .builtin ⟨⟨"acme", "detour"⟩, 1⟩ >>= fun g =>
      Session.ofReply (Samples.attended.engine.start g [])) = _
    rw [Samples.published_graph]
    show Session.ofReply r = _
    rw [Session.ofReply, ho]
    rfl
  refine ⟨o, r.conversation, ?_⟩
  show Samples.published.transcript Samples.attended [_, _] = _
  have hexecute : Samples.published.execute Samples.attended (.start "detour" []) =
      ({ Samples.published with held := some r.conversation }, .ok (.outcome o)) := by
    rw [Session.execute, hstart]
    rfl
  rw [Session.transcript, if_pos (by decide), hexecute]
  rfl

end Parley

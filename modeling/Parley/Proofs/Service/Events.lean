import Parley.Proofs.Service.Histories
import Parley.Proofs.Service.Progress
import Parley.Proofs.Store.Found

/-!
# What a command does and tells

A command that succeeds opens a conversation, moves it or drops it, and tells what has become of it.
A command that fails changes nothing in the store, and it tells nothing either, unless the store has
refused it: then a turn has been told of before it could be stored.  All that is told is about the
thread of the command, and what is stored for other threads stays as it is.

* `Event.thread?`, `Service.told`: the events of a thread;
* `Service.news`: what is told when a conversation is opened or moved;
* `Service.Does`, `Service.Loses`, `Service.execute_cases`: all that a command does, and what a
  refusal leaves of it;
* `Service.Passes`, `Service.handle_cases`: what an input does for a thread.
-/

namespace Parley

/-! ### Plans of store calls -/

namespace Plan

variable {α β : Type}

theorem run_bind (p : Plan α) (f : α → Plan β) (s : Store) :
    (p >>= f).run s = (f (p.run s).2).run (p.run s).1 := by
  induction p generalizing s with
  | done a => rfl
  | latest key next ih => exact ih _ s
  | load key v next ih => exact ih _ s
  | publish tenant flow base next ih =>
    show (publish tenant flow base fun r => next r >>= f).run s = _
    rw [run, run]
    split
    · exact ih _ _
    · exact ih _ _

/-- No call touches a conversation. -/
theorem run_conversations (p : Plan α) (s : Store) :
    (p.run s).1.conversations = s.conversations := by
  induction p generalizing s with
  | done a => rfl
  | latest key next ih => exact ih _ s
  | load key v next ih => exact ih _ s
  | publish tenant f base next ih =>
    rw [run]
    rcases s.publish_cases tenant f base with ⟨-, h⟩ | ⟨-, -, -, h⟩ | ⟨-, fault, h⟩ <;> rw [h]
      <;> exact ih _ _

end Plan

/-! ### Events of a thread -/

namespace Event

/-- The thread that an event is about. -/
def thread? : Event → Option ThreadKey
  | .turnProcessed key _ _ | .pathLocked key _ | .escalated key _ | .ended key _ => some key
  | .published .. | .rejected .. => none

/-- The turn that was processed. -/
def turn? : Event → Option Nat
  | .turnProcessed _ turn _ => some turn
  | _ => none

/-- The path that was locked. -/
def lock? : Event → Option PathId
  | .pathLocked _ path => some path
  | _ => none

/-- The node at which a conversation has ended. -/
def end? : Event → Option NodeId
  | .ended _ node => some node
  | _ => none

end Event

namespace Service

open Act

/-- The events of a thread, oldest first. -/
def told (s : Service) (key : ThreadKey) : List Event :=
  s.events.filter fun e => e.thread? = some key

/-- The event of a turn that has been counted. -/
def turnEvents (key : ThreadKey) (before : Option Conversation) (after : Conversation) :
    List Event :=
  if before.all fun c => c.turn = after.turn then [] else
    [.turnProcessed key after.turn after.position.node]

/-- All that is told when a conversation is opened or changed. -/
def news (key : ThreadKey) (before : Option Conversation) (after : Conversation) : List Event :=
  turnEvents key before after ++
    (lockEvents key before after ++ statusEvents key before after.status)

theorem turnEvents_subset (key : ThreadKey) (before : Option Conversation) (after : Conversation) :
    turnEvents key before after ⊆ news key before after :=
  List.subset_append_left _ _

theorem news_thread {key : ThreadKey} {before : Option Conversation}
    {after : Conversation} {e : Event} (h : e ∈ news key before after) : e.thread? = some key := by
  rcases List.mem_append.1 h with h | h
  · unfold turnEvents at h
    split_ifs at h
    · cases h
    · rw [List.mem_singleton.1 h]
      rfl
  · rcases List.mem_append.1 h with h | h
    · unfold lockEvents at h
      split_ifs at h
      · cases h
      · obtain ⟨path, -, rfl⟩ := List.mem_map.1 h
        rfl
    · unfold statusEvents at h
      split_ifs at h
      · cases h
      · cases hs : after.status with
        | awaitingInput =>
          rw [hs] at h
          cases h
        | escalated reason | terminal node =>
          rw [hs] at h
          rw [List.mem_singleton.1 h]
          rfl

/-! ### Commands -/

/-- All that a command of a thread does when it succeeds. -/
inductive Does (policy : PolicySettings Binary64) (key : ThreadKey) (s s' : Service) :
    Command → Prop
  | closed : s'.store = (s.store.delete key).1 → s'.events = s.events → Does policy key s s' .close
  | started {flow : FlowId} {context : Dict Json} {c : Conversation} :
      s.store.conversations.get? key = none →
      c.turn = 0 → c.path = {} → s'.store = s.store.save key c →
        s'.events = s.events ++ news key none c →
      Does policy key s s' (.start flow context)
  | moved {operation : Operation} {kept c c' : Conversation} :
      s.store.conversations.get? key = some kept →
      kept.Agrees c → operation.Moves policy c c' → s'.store = s.store.save key c' →
      s'.events = s.events ++ news key (some c) c' → Does policy key s s' (.operate operation)

/-- What the command of an operation leaves when the store refuses it: a turn that it counts has
been told of. -/
inductive Loses (policy : PolicySettings Binary64) (key : ThreadKey) (s s' : Service) :
    Command → Prop
  | unwritten {operation : Operation} {kept c c' : Conversation} :
      s.store.conversations.get? key = some kept →
      kept.Agrees c → operation.Moves policy c c' → s'.store = s.store →
      s'.events = s.events ++ turnEvents key (some c) c' →
        Loses policy key s s' (.operate operation)

/-- The store and the events are as before. -/
structure AsBefore (s s' : Service) : Prop where
  store : s'.store = s.store
  events : s'.events = s.events

section Commands

variable {settings : ServiceSettings} {s s₀ : Service} {key : ThreadKey}

theorem AsBefore.refl (s : Service) : AsBefore s s := ⟨rfl, rfl⟩

theorem AsBefore.trans {s' s'' : Service} (h : AsBefore s s') (h' : AsBefore s' s'') :
    AsBefore s s'' :=
  ⟨h'.store.trans h.store, h'.events.trans h.events⟩

theorem graph_asBefore (settings : ServiceSettings) (key : GraphKey) (s : Service) :
    Yields s (graph settings key) (fun _ => AsBefore s) fun _ => AsBefore s := by
  refine yields_get ?_
  split
  · exact yields_pure (.refl s)
  · refine yields_get (Yields.bind (P := fun _ => AsBefore s)
      (yields_ofStore (fun _ _ => .refl s) fun _ _ => .refl s) fun found s' hs' => ?_)
    split
    · exact yields_throw hs'
    · split
      · exact yields_throw hs'
      · refine Yields.bind (P := fun _ => AsBefore s)
          (yields_modify ⟨hs'.store, hs'.events⟩) fun _ s'' hs'' => ?_
        exact yields_pure hs''

theorem latest_asBefore (key : FlowKey) (s : Service) :
    Yields s (latest key) (fun _ => AsBefore s) fun _ => AsBefore s := by
  refine yields_get (Yields.bind (P := fun _ => AsBefore s)
    (yields_ofStore (fun _ _ => .refl s) fun _ _ => .refl s) fun found s' hs' => ?_)
  split
  · exact yields_pure hs'
  · exact yields_throw hs'

/-- What an operation has led to, before it is stored. -/
structure Performed (policy : PolicySettings Binary64) (key : ThreadKey) (operation : Operation)
    (s : Service)
    (c : Conversation) (p : Conversation × Outcome) (s' : Service) : Prop where
  moves : operation.Moves policy c p.1
  tells : p.2.Tells p.1
  store : s'.store = s.store
  events : s'.events = s.events ++ turnEvents key (some c) p.1

theorem call_performed {g : Graph} {c : Conversation} {k : Call} (hk : ∀ input, k ≠ .turn input)
    (hs : AsBefore s₀ s) :
    Yields s (ofReply (settings.engine.call g c k))
      (Performed settings.engine.policy key k.operation s₀ c) fun _ => AsBefore s₀ := by
  refine (ofReply_yields _).imp ?_ ?_
  · rintro ⟨c', o⟩ s' ⟨rfl, rfl, ho⟩
    have hmoves := Engine.call_moves ho
    have hturn : (settings.engine.call g c k).conversation.turn = c.turn := by
      rcases hmoves.turn with h | ⟨⟨input, h⟩, -⟩
      · exact h
      · cases k with
        | turn input => exact absurd rfl (hk input)
        | resume | overridePath => cases h
    refine ⟨hmoves, Engine.call_tells ho, hs.store, ?_⟩
    rw [hs.events]
    simp [turnEvents, hturn]
  · rintro - s' ⟨rfl, -⟩
    exact hs

theorem turn_performed {g : Graph} {c : Conversation} (input : TurnInput) (hs : AsBefore s₀ s) :
    Yields s (turn settings key g c input)
      (Performed settings.engine.policy key (.turn input) s₀ c) fun _ => AsBefore s₀ := by
  refine Yields.bind
    (P := fun p s' => s' = s ∧ p.1 = (settings.engine.turn g c input).conversation ∧
    (settings.engine.turn g c input).result = .ok p.2) ?_ ?_
  · refine (ofReply_yields _).imp (fun _ _ h => h) ?_
    rintro - s' ⟨rfl, -⟩
    exact hs
  · rintro ⟨c', o⟩ s' ⟨rfl, rfl, ho⟩
    have htells := Engine.call_tells (k := .turn input) ho
    have hmoves := Engine.call_moves (k := .turn input) ho
    have hcount : o.turn = (settings.engine.turn g c input).conversation.turn := htells.turn
    dsimp only
    split_ifs with hturn
    · refine Yields.bind (P := fun _ s'' => s''.store = s₀.store ∧
        s''.events = s₀.events ++ [.turnProcessed key o.turn o.node])
          (yields_modify ⟨hs.store, ?_⟩) ?_
      · rw [← hs.events]
      · rintro - s'' ⟨hstore, hevents⟩
        have hnews : turnEvents key (some c) (settings.engine.turn g c input).conversation =
            [.turnProcessed key o.turn o.node] := by
          rw [htells.turn, htells.node]
          exact if_neg (by simpa [← hcount] using Ne.symm hturn)
        exact yields_pure ⟨hmoves, htells, hstore, hnews ▸ hevents⟩
    · have hnews : turnEvents key (some c) (settings.engine.turn g c input).conversation = [] :=
        if_pos (by simpa [← hcount] using (not_not.1 hturn).symm)
      exact yields_pure ⟨hmoves, htells, hs.store, by rw [hnews, List.append_nil, hs.events]⟩

theorem repin_performed (key : ThreadKey) (flow : FlowKey) (c : Conversation)
    (version : Option Version) :
    Yields s (repin settings flow c version)
      (Performed settings.engine.policy key (.repin version) s c) fun _ => AsBefore s := by
  have hmove (v : Version) {s' : Service} (hs' : AsBefore s s') :
      Yields s' (repin settings flow c (some v))
        (Performed settings.engine.policy key (.repin version) s c) fun _ => AsBefore s := by
    unfold repin
    refine Yields.bind (P := fun _ => AsBefore s) (yields_pure hs') fun v s₁ hs₁ => ?_
    refine Yields.bind (P := fun _ => AsBefore s)
      ((graph_asBefore settings _ s₁).imp (fun _ _ h => hs₁.trans h) fun _ _ h => hs₁.trans h)
        fun next s₂ hs₂ => ?_
    split
    · exact yields_throw hs₂
    · rename_i c' hc'
      have hturn : c'.turn = c.turn := by
        obtain ⟨-, rfl⟩ := Engine.repin_eq_ok.1 hc'
        rfl
      refine yields_pure ⟨Engine.repin_moves _ hc' version, Engine.outcome_tells _ _ _ _ _,
        hs₂.store, ?_⟩
      rw [hs₂.events]
      simp [turnEvents, hturn]
  cases version with
  | some v => exact hmove v (.refl s)
  | none =>
    exact Yields.bind (P := fun _ => AsBefore s)
      (Yields.map (latest_asBefore flow s)) fun v s' hs' => hmove v hs'

/-- What an operation leads to, or that it leaves all as it was. -/
theorem perform_performed (key : ThreadKey) (c : Conversation) (operation : Operation) :
    Yields s (perform settings key c operation)
      (Performed settings.engine.policy key operation s c) fun _ => AsBefore s := by
  cases operation with
  | turn input =>
    exact Yields.bind (P := fun _ => AsBefore s) (graph_asBefore settings _ s) fun g s' hs' =>
      turn_performed input hs'
  | resume target =>
    exact Yields.bind (P := fun _ => AsBefore s) (graph_asBefore settings _ s) fun g s' hs' =>
      call_performed (k := .resume target) nofun hs'
  | overridePath path =>
    exact Yields.bind (P := fun _ => AsBefore s) (graph_asBefore settings _ s) fun g s' hs' =>
      call_performed (k := .overridePath path) nofun hs'
  | repin version => exact repin_performed key _ c version

theorem conclude_tells (key : ThreadKey) (before : Option Conversation) {c : Conversation}
    {o : Outcome} (ho : o.Tells c) (refusal : Option String) :
    Yields s (conclude key before c o refusal)
      (fun _ s' => refusal = none ∧ s'.store = s.store.save key c ∧
        s'.events = s.events ++ (lockEvents key before c ++ statusEvents key before c.status))
      fun e s' => (∃ reason, refusal = some reason ∧ e = .unwritten reason) ∧ s' = s := by
  refine Yields.bind (P := fun _ s' => refusal = none ∧ s'.store = s.store.save key c ∧
    s'.events = s.events)
      (yields_write (fun h => ⟨h, rfl, rfl⟩) fun reason h => ⟨⟨reason, h, rfl⟩, rfl⟩) ?_
  rintro - s' ⟨hrefusal, hstore, hevents⟩
  refine Yields.bind (P := fun _ s'' => s''.store = s'.store ∧
      s''.events = s'.events ++ (lockEvents key before c ++ statusEvents key before c.status))
    (yields_modify ⟨rfl, ?_⟩) ?_
  · rw [ho.status]
  · rintro - s'' ⟨hstore', hevents'⟩
    exact yields_pure ⟨hrefusal, hstore'.trans hstore, hevents ▸ hevents'⟩

theorem start_does (settings : ServiceSettings) (key : ThreadKey) (flow : FlowId)
    (context : Dict Json) (refusal : Option String) (s : Service) :
    Yields s (start settings key flow context refusal)
      (fun _ s' => refusal = none ∧ Does settings.engine.policy key s s' (.start flow context))
      fun _ => AsBefore s := by
  refine yields_get
    (Yields.bind (P := fun found s' => s' = s ∧ s.store.conversation key = .ok found)
      (yields_ofStore (fun _ h => ⟨rfl, h⟩) fun _ _ => .refl s) ?_)
  rintro found s' ⟨rfl, hfound⟩
  cases found with
  | some c => exact yields_throw (.refl s')
  | none =>
    have hnone : s'.store.conversations.get? key = none := by
      rcases Store.conversation_agrees hfound with ⟨hnone, -⟩ | ⟨_, _, -, hsome, -⟩
      · exact hnone
      · cases hsome
    refine Yields.bind (P := fun _ => AsBefore s') (latest_asBefore _ s') fun f s₁ hs₁ => ?_
    refine Yields.bind (P := fun _ => AsBefore s')
      ((graph_asBefore settings _ s₁).imp (fun _ _ h => hs₁.trans h) fun _ _ h => hs₁.trans h)
      fun g s₂ hs₂ => ?_
    refine Yields.bind
      (P := fun p s₃ => s₃ = s₂ ∧ p.1 = (settings.engine.start g context).conversation ∧
      (settings.engine.start g context).result = .ok p.2) ?_ ?_
    · refine (ofReply_yields _).imp (fun _ _ h => h) ?_
      rintro - s₃ ⟨rfl, -⟩
      exact hs₂
    · rintro ⟨c, o⟩ s₃ ⟨rfl, rfl, ho⟩
      obtain ⟨hturn, hpath⟩ := Engine.start_eq settings.engine g context
      refine (conclude_tells key none (Engine.advance_tells ho) refusal).imp ?_ ?_
      · rintro - s₄ ⟨hrefusal, hstore, hevents⟩
        exact ⟨hrefusal, .started hnone hturn hpath (hs₂.store ▸ hstore) (hs₂.events ▸ hevents)⟩
      · rintro - s₄ ⟨-, rfl⟩
        exact hs₂

theorem operate_does (settings : ServiceSettings) (key : ThreadKey) (operation : Operation)
    (refusal : Option String) (s : Service) :
    Yields s (executeAct settings key (.operate operation) refusal)
      (fun _ s' => refusal = none ∧ Does settings.engine.policy key s s' (.operate operation))
      fun e s' => AsBefore s s' ∨ (∃ reason, refusal = some reason ∧ e = .unwritten reason) ∧
        Loses settings.engine.policy key s s' (.operate operation) := by
  refine yields_get
    (Yields.bind (P := fun found s' => s' = s ∧ s.store.conversation key = .ok found)
      (yields_ofStore (fun _ h => ⟨rfl, h⟩) fun _ _ => .inl (.refl s)) ?_)
  rintro found s' ⟨rfl, hfound⟩
  rcases Store.conversation_agrees hfound with ⟨-, rfl⟩ | ⟨kept, c, hkept, rfl, hagrees⟩
  · exact yields_throw (.inl (.refl s'))
  · refine Yields.bind
      ((perform_performed key c operation).imp (fun _ _ h => h) fun _ _ h => .inl h) ?_
    rintro ⟨c', o⟩ s₁ hperformed
    refine (conclude_tells key (some c) hperformed.tells refusal).imp ?_ ?_
    · rintro - s₂ ⟨hrefusal, hstore, hevents⟩
      refine ⟨hrefusal, .moved hkept hagrees hperformed.moves (hperformed.store ▸ hstore) ?_⟩
      rw [hevents, hperformed.events, List.append_assoc]
      rfl
    · -- the turn has been told of before the store refuses it
      rintro failure s₂ ⟨hrefused, rfl⟩
      exact .inr
        ⟨hrefused, .unwritten hkept hagrees hperformed.moves hperformed.store hperformed.events⟩

theorem executeAct_does (settings : ServiceSettings) (key : ThreadKey) (command : Command)
    (refusal : Option String) (s : Service) :
    Yields s (executeAct settings key command refusal)
      (fun _ s' => refusal = none ∧ Does settings.engine.policy key s s' command)
      fun e s' => AsBefore s s' ∨ (∃ reason, refusal = some reason ∧ e = .unwritten reason) ∧
        Loses settings.engine.policy key s s' command := by
  cases command with
  | start flow context =>
    exact (start_does settings key flow context refusal s).imp (fun _ _ h => h) fun _ _ h => .inl h
  | operate operation => exact operate_does settings key operation refusal s
  | close =>
    refine yields_get (Yields.bind
      (P := fun _ s' => refusal = none ∧ Does settings.engine.policy key s s' .close)
      (yields_write (fun h => ⟨h, .closed rfl rfl⟩) fun _ _ => .inl (.refl s)) fun _ _ h =>
        yields_pure h)

/-- **A command does all that it should and tells of it, or it fails and leaves the store as it
was.**  Of a command that fails nothing is told, unless the store has refused it. -/
theorem execute_cases (settings : ServiceSettings) (s : Service) (key : ThreadKey)
    (command : Command) (refusal : Option String) :
    ((∃ reply, (s.execute settings key command refusal).2 = .ok reply) ∧ refusal = none ∧
        Does settings.engine.policy key s (s.execute settings key command refusal).1 command) ∨
      (∃ failure, (s.execute settings key command refusal).2 = .error failure) ∧
        AsBefore s (s.execute settings key command refusal).1 ∨
      ∃ reason, (s.execute settings key command refusal).2 = .error (.unwritten reason) ∧
        refusal = some reason ∧
        Loses settings.engine.policy key s (s.execute settings key command refusal).1 command := by
  have hdoes := executeAct_does settings key command refusal s
  unfold Yields at hdoes
  unfold execute
  rcases hrun : (executeAct settings key command refusal).run.run s with ⟨r, s'⟩
  rw [hrun] at hdoes
  cases r with
  | ok reply => exact .inl ⟨⟨reply, rfl⟩, hdoes⟩
  | error failure =>
    rcases hdoes with hbefore | ⟨⟨reason, hrefusal, rfl⟩, hloses⟩
    · exact .inr (.inl ⟨⟨failure, rfl⟩, hbefore⟩)
    · exact .inr (.inr ⟨reason, rfl, hrefusal, hloses⟩)

end Commands

/-! ### What passes a thread by -/

/-- Nothing has happened to a thread. -/
structure Passes (key : ThreadKey) (s s' : Service) : Prop where
  held : s'.store.conversations.get? key = s.store.conversations.get? key
  told : s'.told key = s.told key

section Passes

variable {s s' : Service} {key key' : ThreadKey}

theorem AsBefore.passes (h : AsBefore s s') (key : ThreadKey) : Passes key s s' :=
  ⟨by rw [h.store], by rw [told, told, h.events]⟩

/-- What is told of a thread, as a part of its news. -/
theorem told_of_subset {before : Option Conversation} {after : Conversation} {events : List Event}
    (hevents : events ⊆ news key before after) (h : s'.events = s.events ++ events) :
    s'.told key = s.told key ++ events := by
  have hall : events.filter (fun e => e.thread? = some key) = events :=
    List.filter_eq_self.2 fun e he => by simp [news_thread (hevents he)]
  rw [told, told, h, List.filter_append, hall]

theorem told_of_ne (hkeys : key' ≠ key) {before : Option Conversation} {after : Conversation}
    {events : List Event} (hevents : events ⊆ news key' before after)
    (h : s'.events = s.events ++ events) :
    s'.told key = s.told key := by
  have hnone : events.filter (fun e => e.thread? = some key) = [] :=
    List.filter_eq_nil_iff.2 fun e he => by simp [news_thread (hevents he), hkeys]
  rw [told, told, h, List.filter_append, hnone, List.append_nil]

/-- The commands of another thread. -/
theorem execute_passes (hkeys : key' ≠ key) (settings : ServiceSettings) (s : Service)
    (command : Command) (refusal : Option String) :
    Passes key s (s.execute settings key' command refusal).1 := by
  rcases execute_cases settings s key' command refusal with
    ⟨-, -, hdoes⟩ | ⟨-, hbefore⟩ | ⟨_, -, -, hloses⟩
  · cases hdoes with
    | closed hstore hevents =>
      refine ⟨?_, by rw [told, told, hevents]⟩
      rw [hstore, Store.delete, Table.get?_erase, if_neg hkeys]
    | started _ _ _ hstore hevents | moved _ _ _ hstore hevents =>
      refine ⟨?_, told_of_ne hkeys (List.Subset.refl _) hevents⟩
      rw [hstore, Store.save, Table.get?_set, if_neg hkeys]
  · exact hbefore.passes key
  · cases hloses with
    | unwritten _ _ _ hstore hevents =>
      exact ⟨by rw [hstore], told_of_ne hkeys (turnEvents_subset _ _ _) hevents⟩

theorem publish_passes {α : Type} {plan : Plan (Report α)}
    (h : ∀ store, ∀ e ∈ (plan.run store).2.events, e.thread? = none) (key : ThreadKey)
    (s : Service) :
    Passes key s (s.publish plan).1 := by
  have hnone : ((plan.run s.store).2.events).filter (fun e => e.thread? = some key) = [] :=
    List.filter_eq_nil_iff.2 fun e he => by simp [h s.store e he]
  refine ⟨by rw [publish, plan.run_conversations], ?_⟩
  rw [publish, told, told, List.filter_append, hnone, List.append_nil]

/-- Operations on versions. -/
theorem mutated_passes (host : Host) (stamp : Stamp) (key : ThreadKey) (s : Service)
    (request : Request) :
    Passes key s (s.mutated host stamp request) := by
  have htold {tenant : TenantId} {flow : FlowId} {base : Version}
      {result : Except PublishError Flow} :
      ∀ e ∈ (Publisher.report tenant flow base result).events, e.thread? = none := fun e he => by
    rw [List.mem_singleton.1 he]
    cases result <;> rfl
  cases request with
  | create =>
    refine publish_passes (fun store => ?_) key s
    rw [Publisher.create, Plan.run_bind]
    exact htold
  | apply =>
    refine publish_passes (fun store => ?_) key s
    rw [Publisher.apply, Plan.run_bind]
    exact htold
  | rollback =>
    refine publish_passes (fun store => ?_) key s
    rw [Publisher.rollback, Plan.run_bind]
    exact htold
  | merge =>
    refine publish_passes (fun store => ?_) key s
    unfold Publisher.publishLayers
    split
    · exact List.forall_mem_nil _
    · rw [Plan.run_bind]
      exact htold

/-- **An input passes a thread by, or it is a command of the thread that does all that it should, or
that the store refuses.** -/
theorem handle_cases (settings : ServiceSettings) (s : Service) (key : ThreadKey) (input : Input) :
    Passes key s (s.handle settings input) ∨
      (∃ command, input = .command key command ∧
        Does settings.engine.policy key s (s.handle settings input) command) ∨
      ∃ command reason, input = .command key command (some reason) ∧
        (s.execute settings key command (some reason)).2 = .error (.unwritten reason) ∧
        Loses settings.engine.policy key s (s.handle settings input) command := by
  cases input with
  | mutation stamp request => exact .inl (mutated_passes settings.host stamp key s request)
  | command key' command refusal =>
    by_cases hkeys : key' = key
    · subst hkeys
      rcases execute_cases settings s key' command refusal with
        ⟨-, rfl, hdoes⟩ | ⟨-, hbefore⟩ | ⟨reason, hfailed, rfl, hloses⟩
      · exact .inr (.inl ⟨command, rfl, hdoes⟩)
      · exact .inl (hbefore.passes key')
      · exact .inr (.inr ⟨command, reason, rfl, hfailed, hloses⟩)
    · exact .inl (execute_passes hkeys settings s command refusal)

end Passes

end Service

end Parley

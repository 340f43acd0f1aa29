import Parley.Proofs.Service.Refinement

/-!
# Threads do not see each other

What a thread is answered and what is stored for it depend on its own commands only.  The threads
share the versions, which no command changes, and the graphs that are kept, which are those that
would be compiled in any case.

* `ServiceSettings.withRoom`, `Service.execute_withRoom`: no room for graphs is room for one;
* `Service.onward`: a service some time after it was started;
* `Service.run`, `Service.run_session`: commands of any threads, and the session of one of them;
* `Service.transcript_own`: what a thread is answered;
* `Service.independent`.
-/

namespace Parley

/-! ### Room for graphs -/

/-- The settings with room for a graph.  Without any, the last graph is kept all the same. -/
def ServiceSettings.withRoom (settings : ServiceSettings) : ServiceSettings :=
  { settings with graphCache := max settings.graphCache 1 }

theorem ServiceSettings.withRoom_pos (settings : ServiceSettings) :
    0 < settings.withRoom.graphCache :=
  lt_of_lt_of_le Nat.zero_lt_one (le_max_right _ _)

namespace Service

variable (settings : ServiceSettings)

theorem keepGraph_withRoom (key : GraphKey) (g : Graph) :
    keepGraph settings.withRoom key g = keepGraph settings key g := by
  refine congrArg modify (funext fun s => ?_)
  have hkept : (if settings.withRoom.graphCache ≤ s.graphs.length then [] else s.graphs) =
      if settings.graphCache ≤ s.graphs.length then [] else s.graphs := by
    by_cases hnil : s.graphs = []
    · simp [hnil]
    · have hpos : 1 ≤ s.graphs.length := List.length_pos_iff.2 hnil
      simp [ServiceSettings.withRoom, hpos]
  dsimp only
  rw [hkept]

theorem graph_withRoom (key : GraphKey) : graph settings.withRoom key = graph settings key := by
  unfold graph
  simp only [keepGraph_withRoom]
  rfl

theorem start_withRoom (key : ThreadKey) (flow : FlowId) (context : Dict Json) :
    start settings.withRoom key flow context = start settings key flow context := by
  unfold start
  simp only [graph_withRoom]
  rfl

theorem perform_withRoom (key : ThreadKey) (c : Conversation) (operation : Operation) :
    perform settings.withRoom key c operation = perform settings key c operation := by
  cases operation with
  | repin version =>
    unfold perform repin
    simp only [graph_withRoom]
  | turn | resume | overridePath =>
    unfold perform
    simp only [graph_withRoom]
    rfl

theorem execute_withRoom (s : Service) (key : ThreadKey) (command : Command) :
    s.execute settings.withRoom key command = s.execute settings key command := by
  have hact : executeAct settings.withRoom key command = executeAct settings key command := by
    cases command with
    | close => rfl
    | start flow context => exact start_withRoom settings key flow context
    | operate operation =>
      unfold executeAct
      simp only [perform_withRoom]
  rw [execute, hact, ← execute]

theorem receive_withRoom (s : Service) (a : Arrival) :
    s.receive settings.withRoom a = s.receive settings a := by
  cases a with
  | version => rfl
  | command key command => rw [receive, execute_withRoom, ← receive]

theorem transcript_withRoom (key : ThreadKey) (s : Service) (history : List Arrival) :
    s.transcript settings.withRoom key history = s.transcript settings key history := by
  induction history generalizing s with
  | nil => rfl
  | cons a rest ih =>
    cases a with
    | version => simp only [transcript, receive_withRoom, ih]
    | command => simp only [transcript, receive_withRoom, execute_withRoom, ih]

/-! ### Commands of any threads -/

/-- A service that was started on a store, after what has arrived since. -/
def onward (store : Store) (past : List Arrival) : Service :=
  past.foldl (receive settings) { store }

/-- A command as it arrives. -/
def Arrival.ofCommand (p : ThreadKey × Command) : Arrival := .command p.1 p.2

/-- The service after commands one after the other. -/
def run (s : Service) (commands : List (ThreadKey × Command)) : Service :=
  commands.foldl (fun s p => (s.execute settings p.1 p.2).1) s

end Service

/-- The session after commands one after the other. -/
def Session.run (settings : ServiceSettings) (s : Session) (commands : List Command) : Session :=
  commands.foldl (fun s c => (s.execute settings c).1) s

/-- The commands of others pass a session by. -/
theorem Session.transcript_own (settings : ServiceSettings) (s : Session)
    (commands : List (ThreadKey × Command)) :
    s.transcript settings (commands.map .ofCommand) =
      s.transcript settings ((commands.filter (·.1 = s.key)).map .ofCommand) := by
  induction commands generalizing s with
  | nil => rfl
  | cons p rest ih =>
    obtain ⟨key, command⟩ := p
    by_cases hkey : key = s.key
    · have hrest := ih (s.execute settings command).1
      rw [show (s.execute settings command).1.key = s.key by rw [execute_held]] at hrest
      rw [List.filter_cons_of_pos (by simpa using hkey)]
      simp only [List.map_cons, Service.Arrival.ofCommand, transcript, hkey, if_true]
      exact congrArg _ hrest
    · rw [List.filter_cons_of_neg (by simpa using hkey), ← ih s]
      simp only [List.map_cons, Service.Arrival.ofCommand, transcript, hkey, if_false]

namespace Service

variable {settings : ServiceSettings} {s : Service}

/-- Some time after it was started, a service keeps the right graphs. -/
theorem onward_keepsGraphs (settings : ServiceSettings) (store : Store) (past : List Arrival) :
    (onward settings store past).KeepsGraphs settings.withRoom := by
  induction past using List.reverseRecOn with
  | nil => exact fresh_keepsGraphs _ store
  | append_singleton past a ih =>
    rw [onward, List.foldl_append, ← onward, List.foldl_cons, List.foldl_nil, ← receive_withRoom]
    exact receive_keepsGraphs settings.withRoom_pos ih a

/-- A command is run in the session of its thread, and the other threads do not see it. -/
theorem execute_ofThread (hs : s.KeepsGraphs settings.withRoom) (key : ThreadKey)
    (command : Command) :
    (s.execute settings key command).1.KeepsGraphs settings.withRoom ∧
      (s.execute settings key command).2 = ((s.session key).execute settings command).2 ∧
      ∀ key', (s.execute settings key command).1.session key' =
        if key = key' then ((s.session key).execute settings command).1 else s.session key' := by
  rw [← execute_withRoom]
  exact execute_session settings.withRoom_pos hs key command

/-- Of all commands, the session of a thread sees its own. -/
theorem run_session (hs : s.KeepsGraphs settings.withRoom) (commands : List (ThreadKey × Command))
    (key : ThreadKey) :
    (s.run settings commands).session key =
      (s.session key).run settings ((commands.filter (·.1 = key)).map Prod.snd) := by
  induction commands generalizing s with
  | nil => rfl
  | cons p rest ih =>
    obtain ⟨key', command⟩ := p
    obtain ⟨hkeeps, -, hsession⟩ := execute_ofThread hs key' command
    have hrest := ih hkeeps
    rw [hsession key] at hrest
    by_cases hkey : key' = key
    · subst hkey
      rw [if_pos rfl] at hrest
      rw [List.filter_cons_of_pos (by simp)]
      exact hrest
    · rw [if_neg hkey] at hrest
      rw [List.filter_cons_of_neg (by simpa using hkey)]
      exact hrest

/-- A thread is answered as if there were no others. -/
theorem transcript_own (hs : s.KeepsGraphs settings.withRoom)
    (commands : List (ThreadKey × Command)) (key : ThreadKey) :
    s.transcript settings key (commands.map .ofCommand) =
      s.transcript settings key ((commands.filter (·.1 = key)).map .ofCommand) := by
  have hsession (history : List Arrival) :
      s.transcript settings key history = (s.session key).transcript settings.withRoom history := by
    rw [← transcript_withRoom, transcript_session settings.withRoom_pos key history hs]
  rw [hsession, hsession]
  exact Session.transcript_own settings.withRoom (s.session key) commands

/-- Commands of two threads may change places. -/
theorem execute_comm (hs : s.KeepsGraphs settings.withRoom) {key key' : ThreadKey}
    (hkeys : key ≠ key') (command command' : Command) :
    ((s.execute settings key command).1.execute settings key' command').2 =
      (s.execute settings key' command').2 ∧
      ∀ k, ((s.execute settings key command).1.execute settings key' command').1.session k =
        ((s.execute settings key' command').1.execute settings key command).1.session k := by
  obtain ⟨hfirst, -, hsession⟩ := execute_ofThread hs key command
  obtain ⟨hfirst', hreply', hsession'⟩ := execute_ofThread hs key' command'
  obtain ⟨-, hreply, hboth⟩ := execute_ofThread hfirst key' command'
  obtain ⟨-, -, hboth'⟩ := execute_ofThread hfirst' key command
  refine ⟨?_, fun k => ?_⟩
  · rw [hreply, hreply', hsession, if_neg hkeys]
  · rw [hboth, hboth', hsession, hsession, hsession', hsession', if_neg hkeys, if_neg hkeys.symm]
    by_cases hk : key = k
    · rw [if_pos hk, if_pos hk, if_neg (hk ▸ hkeys.symm)]
    · rw [if_neg hk, if_neg hk]

/-- **Threads are independent.**  Whatever has arrived before, the replies to the commands of a
thread and what is stored for it are those that its own commands alone lead to; commands of two
threads may change places. -/
theorem independent (settings : ServiceSettings) (store : Store) (past : List Arrival) :
    let s := onward settings store past
    (∀ (commands : List (ThreadKey × Command)) (key : ThreadKey),
      s.transcript settings key (commands.map .ofCommand) =
        s.transcript settings key ((commands.filter (·.1 = key)).map .ofCommand) ∧
      (s.run settings commands).store.conversations.get? key =
        (s.run settings (commands.filter (·.1 = key))).store.conversations.get? key) ∧
    ∀ (key key' : ThreadKey) (command command' : Command), key ≠ key' →
      ((s.execute settings key command).1.execute settings key' command').2 =
        (s.execute settings key' command').2 ∧
      ∀ k, ((s.execute settings key command).1.execute settings key' command').1.session k =
        ((s.execute settings key' command').1.execute settings key command).1.session k := by
  intro s
  have hs : s.KeepsGraphs settings.withRoom := onward_keepsGraphs settings store past
  refine ⟨fun commands key => ⟨transcript_own hs commands key, ?_⟩,
    fun key key' command command' hkeys => execute_comm hs hkeys command command'⟩
  have hall := run_session hs commands key
  have hown := run_session hs (commands.filter (·.1 = key)) key
  rw [List.filter_filter] at hown
  simp only [Bool.and_self] at hown
  exact congrArg Session.held (hall.trans hown.symm)

end Service

/-! ### Two threads on one flow -/

namespace Samples

/-- The store once `Samples.detour` is published. -/
def detourStore : Store := published.versions

/-- Any thread can be opened on the flow. -/
theorem start_published (thread : ThreadId) :
    ∃ p, Session.start attended { published with key := ⟨"acme", thread⟩ } "detour" [] = .ok p := by
  have hclosed := Graph.IsCompiled.isClosed ⟨_, _, compile_detour 1⟩
  obtain ⟨-, o, ho⟩ := Engine.start_isPlaced attended.engine hclosed []
  refine ⟨((attended.engine.start (detourGraph 1) []).conversation, o), ?_⟩
  show (published.graph .builtin ⟨⟨"acme", "detour"⟩, 1⟩ >>= fun g =>
    Session.ofReply (attended.engine.start g [])) = _
  rw [published_graph]
  show Session.ofReply (attended.engine.start (detourGraph 1) []) = _
  rw [Session.ofReply, ho]
  rfl

end Samples

/-- A thread is opened behind another one as it would be before it. -/
theorem Service.independent_detour :
    (⟨"acme", "ada"⟩ : ThreadKey) ≠ ⟨"acme", "bob"⟩ ∧
      let s := onward Samples.attended Samples.detourStore []
      let opened (s : Service) (thread : ThreadId) :=
        s.execute Samples.attended ⟨"acme", thread⟩ (.start "detour" [])
      (∃ o, (opened (opened s "ada").1 "bob").2 = .ok (.outcome o)) ∧
      ∀ k, (opened (opened s "ada").1 "bob").1.session k =
        (opened (opened s "bob").1 "ada").1.session k := by
  have hkeys : (⟨"acme", "ada"⟩ : ThreadKey) ≠ ⟨"acme", "bob"⟩ := by decide
  obtain ⟨-, hcomm⟩ := independent Samples.attended Samples.detourStore []
  obtain ⟨hreply, hsessions⟩ := hcomm _ _ (.start "detour" []) (.start "detour" []) hkeys
  refine ⟨hkeys, ?_, hsessions⟩
  obtain ⟨⟨c, o⟩, hstart⟩ := Samples.start_published "bob"
  refine ⟨o, ?_⟩
  refine (hreply.trans (execute_ofThread
    (onward_keepsGraphs Samples.attended Samples.detourStore []) _ _).2.1).trans ?_
  show (Session.settle _
    (Session.start _ { Samples.published with key := ⟨"acme", "bob"⟩ } "detour" [])).2 = _
  rw [hstart]
  rfl

end Parley

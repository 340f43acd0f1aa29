import Parley.Conversation.Engine
import Parley.Service.Failure

/-!
# The conversation service

The service holds the conversations of many threads in a store.  A command runs on the graph of the
version that its conversation is pinned to, and the conversation is stored again only if the command
succeeds.  Graphs are compiled once and kept; when too many are kept, all are dropped.

A database may refuse to write.  Then the command fails, and nothing is stored of what it has done;
but of a turn that it has processed it has told already.

* `Operation`, `Command`, `CommandReply`;
* `Service`: the store, the graphs kept and the events published;
* `Service.execute`: one command of a thread;
* `Service.publish`: one plan of the publisher.
-/

namespace Parley

/-- What can be done with a conversation. -/
inductive Operation
  | turn (input : TurnInput)
  | resume (target : Option NodeId)
  | overridePath (path : PathId)
  | repin (version : Option Version)

/-- What a thread can be asked to do. -/
inductive Command
  | start (flow : FlowId) (context : Dict Json)
  | operate (operation : Operation)
  | close

/-- What a command leads to. -/
inductive CommandReply
  | outcome (o : Outcome)
  | closed (removed : Bool)

/-- What the service is run with. -/
structure ServiceSettings where
  host : Host
  engine : Engine
  graphCache : Nat

/-- A version of a flow of a tenant. -/
structure GraphKey where
  flow : FlowKey
  version : Version
  deriving DecidableEq

/-- The store, the graphs kept, and the events published so far, oldest first. -/
structure Service where
  store : Store := {}
  graphs : Table GraphKey Graph := []
  events : List Event := []

namespace Service

/-- Something done by the service.  What it changes stays changed when it fails. -/
abbrev Act (α : Type) := ExceptT Failure (StateM Service) α

/-- The value of a store call. -/
def ofStore {α : Type} (r : Except StoreFault α) : Act α :=
  match r with
  | .ok a => pure a
  | .error fault => throw (.store fault)

/-- Publish events. -/
def tell (events : List Event) : Act Unit :=
  modify fun s => { s with events := s.events ++ events }

/-- Keep a graph; when there is no room, those kept before are dropped. -/
def keepGraph (settings : ServiceSettings) (key : GraphKey) (g : Graph) : Act Unit :=
  modify fun s =>
    let kept : Table GraphKey Graph :=
      if settings.graphCache ≤ s.graphs.length then [] else s.graphs
    { s with graphs := kept.set key g }

/-- The graph of a version: one that is kept, or else a new one. -/
def graph (settings : ServiceSettings) (key : GraphKey) : Act Graph := do
  match (← get).graphs.get? key with
  | some g => pure g
  | none =>
      match ← ofStore ((← get).store.load key.flow key.version) with
      | none => throw (.flowNotFound key.flow (some key.version))
      | some f =>
          match settings.host.compile f with
          | .error e => throw (.compile e)
          | .ok g => do
              keepGraph settings key g
              pure g

/-- The last version of a flow. -/
def latest (key : FlowKey) : Act Flow := do
  match ← ofStore ((← get).store.latest key) with
  | some f => pure f
  | none => throw (.flowNotFound key none)

/-- The event of a path that has become locked. -/
def lockEvents (key : ThreadKey) (before : Option Conversation) (after : Conversation) :
    List Event :=
  if before.any fun c => c.path.isLocked then []
  else after.path.locked?.toList.map (.pathLocked key)

/-- The event of a status that is new. -/
def statusEvents (key : ThreadKey) (before : Option Conversation) (status : Status) : List Event :=
  if before.any fun c => c.status = status then []
  else
    match status with
    | .escalated reason => [.escalated key reason]
    | .terminal node => [.ended key node]
    | .awaitingInput => []

/-- Write to the store, unless it refuses for some reason. -/
def write (refusal : Option String) (f : Store → Store) : Act Unit :=
  match refusal with
  | some reason => throw (.unwritten reason)
  | none => modify fun s => { s with store := f s.store }

/-- Store a conversation and tell what has become of it. -/
def conclude (key : ThreadKey) (before : Option Conversation) (after : Conversation) (o : Outcome)
    (refusal : Option String := none) : Act CommandReply := do
  write refusal fun store => store.save key after
  tell (lockEvents key before after ++ statusEvents key before o.status)
  pure (.outcome o)

/-- The outcome of an operation, with the conversation after it. -/
def ofReply (r : Reply) : Act (Conversation × Outcome) :=
  match r.result with
  | .ok o => pure (r.conversation, o)
  | .error fault => throw (.conversation fault)

/-- Open a conversation on the last version of a flow. -/
def start (settings : ServiceSettings) (key : ThreadKey) (flow : FlowId) (context : Dict Json)
    (refusal : Option String := none) : Act CommandReply := do
  match ← ofStore ((← get).store.conversation key) with
  | some _ => throw (.threadTaken key.thread)
  | none => do
      let f ← latest ⟨key.tenant, flow⟩
      let g ← graph settings ⟨⟨key.tenant, flow⟩, f.version⟩
      let (c, o) ← ofReply (settings.engine.start g context)
      conclude key none c o refusal

/-- Process a turn and tell of it. -/
def turn (settings : ServiceSettings) (key : ThreadKey) (g : Graph) (c : Conversation)
    (input : TurnInput) : Act (Conversation × Outcome) := do
  let (after, o) ← ofReply (settings.engine.turn g c input)
  if o.turn ≠ c.turn then tell [.turnProcessed key o.turn o.node]
  pure (after, o)

/-- Move a conversation to a version, or to the last one. -/
def repin (settings : ServiceSettings) (key : FlowKey) (c : Conversation)
    (version : Option Version) :
    Act (Conversation × Outcome) := do
  let version ← match version with
    | some v => pure v
    | none => (latest key).map Flow.version
  let next ← graph settings ⟨key, version⟩
  match Engine.repin next c with
  | .error fault => throw (.conversation fault)
  | .ok c => pure (c, Engine.position next c)

/-- Run an operation on a stored conversation. -/
def perform (settings : ServiceSettings) (key : ThreadKey) (c : Conversation) :
    Operation → Act (Conversation × Outcome)
  | .turn input => do
      turn settings key (← graph settings ⟨⟨key.tenant, c.flow⟩, c.version⟩) c input
  | .resume target => do
      ofReply (settings.engine.resume (← graph settings ⟨⟨key.tenant, c.flow⟩, c.version⟩) c target)
  | .overridePath path => do
      ofReply
        (settings.engine.overridePath (← graph settings ⟨⟨key.tenant, c.flow⟩, c.version⟩) c path)
  | .repin version => repin settings ⟨key.tenant, c.flow⟩ c version

/-- Run a command of a thread, on a store that may refuse what the command writes. -/
def executeAct (settings : ServiceSettings) (key : ThreadKey) (command : Command)
    (refusal : Option String := none) : Act CommandReply :=
  match command with
  | .close => do
      let removed := ((← get).store.delete key).2
      write refusal fun store => (store.delete key).1
      pure (.closed removed)
  | .start flow context => start settings key flow context refusal
  | .operate operation => do
      match ← ofStore ((← get).store.conversation key) with
      | none => throw (.conversationNotFound key)
      | some c => do
          let (after, o) ← perform settings key c operation
          conclude key (some c) after o refusal

/-- Run a command of a thread.  The store may refuse what it writes, for some reason. -/
def execute (settings : ServiceSettings) (s : Service) (key : ThreadKey) (command : Command)
    (refusal : Option String := none) : Service × Except Failure CommandReply :=
  let (reply, s) := (executeAct settings key command refusal).run.run s
  (s, reply)

/-- Run a plan of the publisher. -/
def publish {α : Type} (s : Service) (plan : Plan (Report α)) : Service × Except PublishError α :=
  let (store, report) := plan.run s.store
  ({ s with store := store, events := s.events ++ report.events }, report.result)

end Service

end Parley

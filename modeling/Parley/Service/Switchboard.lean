import Parley.Service.Lane

/-!
# Callers and workers

Every call of the service puts a command into the lane of its thread and waits for the answer, and
every lane has a worker that executes the commands in it.  All of them take their steps on their
own: after a caller has looked up a lane, and before the lane takes its command, a worker may close
the lane or another caller may take it out of the registry.  What a command does is the matter of
`Service.execute`; here it only matters when it is executed.

* `Caller`, `Stage`: a call, and how far it has got;
* `Ticket`: a command in a lane;
* `Worker`: a lane and the command of it that is being executed;
* `Switchboard`: callers, workers and the registry;
* `Switchboard.Event`, `Switchboard.step?`, `Switchboard.run?`.
-/

namespace Parley

/-- How far a call has got: the lane of its thread is to be looked up, a lane is found and is to
take the command, the command waits in a lane or is executed, a closed conversation is to leave the
registry, or the call has ended. -/
inductive Stage
  | looking
  | sending (lane : Nat)
  | waiting
  | leaving
  | done
  deriving DecidableEq

/-- The lane that is to take a command. -/
def Stage.lane? : Stage → Option Nat
  | .sending j => some j
  | _ => none

/-- A call of the service. -/
structure Caller where
  key : ThreadKey
  command : Command
  stage : Stage := .looking

/-- The stage of a call after its answer: who has closed a conversation still takes its lane out of
the registry. -/
def Caller.answered (c : Caller) : Stage :=
  match c.command with
  | .close => .leaving
  | _ => .done

/-- A command that a lane has taken, by the thread, the lane and the caller. -/
structure Ticket where
  key : ThreadKey
  lane : Nat
  caller : Nat
  deriving DecidableEq

/-- A lane of a thread, with the command that is being executed.  A worker whose lane is closed
empties it and ends. -/
structure Worker where
  key : ThreadKey
  lane : Lane Ticket
  running : Option Ticket := none
  ended : Bool := false

/-- All calls made so far, all lanes opened so far, and the last lane of each thread.  The tickets
are listed in the order in which lanes have taken them, and in the order in which their execution
began. -/
structure Switchboard where
  callers : List Caller := []
  workers : List Worker := []
  registry : Table ThreadKey Nat := []
  accepted : List Ticket := []
  begun : List Ticket := []

namespace Switchboard

/-- A step of a caller or a worker. -/
inductive Event
  | call (key : ThreadKey) (command : Command)
  | lookUp (caller : Nat)
  | send (caller : Nat)
  | leave (caller : Nat)
  | begin (worker : Nat)
  | finish (worker : Nat)
  | expire (worker : Nat)
  | retire (worker : Nat)

/-- The lane that is registered for a thread, if it is open. -/
def laneOf? (x : Switchboard) (key : ThreadKey) : Option Nat :=
  (x.registry.get? key).filter fun j => x.workers[j]?.any fun w => w.lane.isOpen

/-- A call gets further. -/
def staged (x : Switchboard) (i : Nat) (stage : Stage) : Switchboard :=
  { x with callers := x.callers.modify i fun c => { c with stage } }

/-- A worker goes on. -/
def employed (x : Switchboard) (j : Nat) (w : Worker) : Switchboard :=
  { x with workers := x.workers.set j w }

/-- A lane takes a command. -/
def accepting (x : Switchboard) (w : Worker) (lane : Lane Ticket) (t : Ticket) : Switchboard :=
  { x.employed t.lane { w with lane } with accepted := x.accepted ++ [t] }

/-- The execution of a command begins. -/
def beginning (x : Switchboard) (j : Nat) (w : Worker) (lane : Lane Ticket) (t : Ticket) :
    Switchboard :=
  { x.employed j { w with lane, running := some t } with begun := x.begun ++ [t] }

/-- A lane is opened for a thread. -/
def opened (x : Switchboard) (capacity : Nat) (key : ThreadKey) : Switchboard :=
  { x with
    workers := x.workers ++ [{ key, lane := { capacity } }]
    registry := x.registry.set key x.workers.length }

/-- The lane of a thread leaves the registry. -/
def unregistered (x : Switchboard) (key : ThreadKey) : Switchboard :=
  { x with registry := x.registry.erase key }

/-- What a step leads to, if it can be taken.  A lane that is full takes no command yet; who finds a
lane closed looks for another one; and a worker may find that it has waited for too long just when a
command has come in. -/
def step? (capacity : Nat) (x : Switchboard) : Event → Option Switchboard
  | .call key command => some { x with callers := x.callers ++ [{ key, command }] }
  | .lookUp i => do
      let c ← x.callers[i]?
      guard (c.stage = .looking)
      match x.laneOf? c.key with
      | some j => some (x.staged i (.sending j))
      | none => some ((x.opened capacity c.key).staged i (.sending x.workers.length))
  | .send i => do
      let c ← x.callers[i]?
      let j ← c.stage.lane?
      let w ← x.workers[j]?
      let t : Ticket := ⟨c.key, j, i⟩
      match w.lane.enqueue t with
      | .ok lane => some ((x.staged i .waiting).accepting w lane t)
      | .error .closed => some (x.staged i .looking)
      | .error .full => none
  | .leave i => do
      let c ← x.callers[i]?
      guard (c.stage = .leaving)
      some ((x.unregistered c.key).staged i .done)
  | .begin j => do
      let w ← x.workers[j]?
      guard (w.running = none)
      let (t, lane) ← w.lane.take?
      some (x.beginning j w lane t)
  | .finish j => do
      let w ← x.workers[j]?
      let t ← w.running
      let c ← x.callers[t.caller]?
      some ((x.employed j { w with running := none }).staged t.caller c.answered)
  | .expire j => do
      let w ← x.workers[j]?
      guard (w.running = none ∧ w.lane.isOpen = true)
      some (x.employed j { w with lane := w.lane.close })
  | .retire j => do
      let w ← x.workers[j]?
      guard (w.running = none ∧ w.lane.isOpen = false ∧ w.lane.queue = [] ∧ w.ended = false)
      let y := x.employed j { w with ended := true }
      some (if (x.laneOf? w.key).isNone then y.unregistered w.key else y)

/-- What steps lead to, one after another, from the start of the service. -/
def run? (capacity : Nat) (events : List Event) : Option Switchboard :=
  events.foldlM (step? capacity) {}

end Switchboard

end Parley

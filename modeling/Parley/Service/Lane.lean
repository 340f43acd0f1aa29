import Parley.Service.Basic

/-!
# Lanes

Each thread has a lane of its own: a bounded queue of commands that one worker runs in order.  A
lane that has been idle for too long is closed and leaves the registry; the next command of its
thread opens a new one.

* `Lane`, `Lane.enqueue`, `Lane.take?`, `Lane.close`;
* `Lane.exchange`: a command put into a lane, and what its receiver makes of it;
* `Lanes`: the lanes in use, with the time at which each became idle.
-/

namespace Parley

/-- A queue of commands, oldest first, or of anything that stands for them. -/
structure Lane (α : Type := Command) where
  capacity : Nat
  queue : List α := []
  isOpen : Bool := true

/-- Why a lane does not take a command. -/
inductive LaneRefusal
  | closed
  | full
  deriving DecidableEq

namespace Lane

variable {α : Type}

/-- Put a command at the end of the queue. -/
def enqueue (l : Lane α) (c : α) : Except LaneRefusal (Lane α) :=
  if !l.isOpen then .error .closed
  else if l.capacity ≤ l.queue.length then .error .full
  else .ok { l with queue := l.queue ++ [c] }

/-- Take the oldest command out of the queue. -/
def take? (l : Lane α) : Option (α × Lane α) :=
  match l.queue with
  | [] => none
  | c :: r => some (c, { l with queue := r })

/-- Take no more commands. -/
def close (l : Lane α) : Lane α := { l with isOpen := false }

/-- What the worker at the end of a lane does with a command. -/
inductive Receiver
  | answers (reply : CommandReply)
  | drops
  | gone

/-- Put a command into a lane and wait for the answer of its receiver. -/
def exchange (l : Lane) (c : Command) (r : Receiver) : Lane × Except Failure CommandReply :=
  let l := match r with
    | .gone => l.close
    | _ => l
  match l.enqueue c with
  | .error _ => (l, .error .laneClosed)
  | .ok waiting =>
      let rest := waiting.take?.elim waiting (·.2)
      match r with
      | .answers reply => (rest, .ok reply)
      | _ => (rest, .error .laneDropped)

end Lane

/-- The lanes in use, with the time at which each became idle. -/
abbrev Lanes := Table ThreadKey Nat

namespace Lanes

/-- Use the lane of a thread, opening it if need be. -/
def use (lanes : Lanes) (key : ThreadKey) (now : Nat) : Lanes := lanes.set key now

/-- Close the lane of a thread. -/
def close (lanes : Lanes) (key : ThreadKey) : Lanes := lanes.erase key

/-- Close the lanes that have been idle for a time. -/
def retire (lanes : Lanes) (idle now : Nat) : Lanes := lanes.filter fun l => now < l.2 + idle

end Lanes

end Parley

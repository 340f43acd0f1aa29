import Parley.Config.Basic
import Parley.Flow.Basic

/-!
# Choosing a path

Each turn may signal a path.  A signal adds one vote to its path and lets the votes for all other
paths decay; the path is locked when its votes reach what is required, which grows with every change
of mind.  Once a path is locked, signals are ignored.  Votes may be counted in any kind of number.

* `PathState`, `PathState.locked?`, `PathDecision`;
* `PolicySettings.required`, `PolicySettings.observe`, `PolicySettings.override`.
-/

namespace Parley

/-- Votes so far, the path signalled last, and how often that changed while no path was locked.  The
changes are counted in 32 bits, and the count wraps around. -/
structure PathState (ν : Type) where
  active : Option PathId := none
  isLocked : Bool := false
  votes : Dict ν := []
  switches : UInt32 := 0
  deriving DecidableEq, Inhabited

/-- The path that is locked. -/
def PathState.locked? {ν : Type} (s : PathState ν) : Option PathId :=
  if s.isLocked then s.active else none

/-- What a signal led to. -/
inductive PathDecision
  | noSignal
  | ignored (path : PathId)
  | tentative (path : PathId) (switched : Bool)
  | locked (path : PathId)
  deriving DecidableEq, Inhabited

/-- The path that a decision locks. -/
def PathDecision.locked? : PathDecision → Option PathId
  | .locked path => some path
  | _ => none

namespace PolicySettings

variable {ν : Type} [NatCast ν] [Add ν] [Mul ν] [Div ν] [LE ν] [DecidableLE ν]

/-- Votes below one hundredth are forgotten. -/
def leastVotes : ν := ((1 : Nat) : ν) / ((100 : Nat) : ν)

/-- The votes that the active path needs to be locked. -/
def required (p : PolicySettings ν) (s : PathState ν) : ν :=
  p.lockThreshold + p.switchPenalty * (s.switches.toNat : ν)

/-- Let all votes decay but those for one path, and forget what becomes small. -/
def decayVotes (p : PolicySettings ν) (keep : Option PathId) (votes : Dict ν) : Dict ν :=
  (votes.map fun (path, n) => (path, if some path = keep then n else n * p.decay)).filter
    fun (path, n) => some path = keep || decide (leastVotes ≤ n)

/-- The votes after a signal. -/
def castVote (p : PolicySettings ν) (path : PathId) (votes : Dict ν) : Dict ν :=
  let votes := p.decayVotes (some path) votes
  votes.insert path ((votes.get? path).getD ((0 : Nat) : ν) + ((1 : Nat) : ν))

/-- Whether a signal means a change of mind. -/
def isSwitch (s : PathState ν) (path : PathId) : Bool := s.active.any (· ≠ path)

/-- Take in a signal while no path is locked. -/
def vote (p : PolicySettings ν) (s : PathState ν) (path : PathId) : PathState ν × PathDecision :=
  let switched := isSwitch s path
  let s : PathState ν := {
    active := some path
    isLocked := false
    votes := p.castVote path s.votes
    switches := if switched then s.switches + 1 else s.switches }
  if p.required s ≤ (s.votes.get? path).getD ((0 : Nat) : ν) then
    ({ s with isLocked := true }, .locked path)
  else (s, .tentative path switched)

/-- Take in the signal of a turn, or its silence. -/
def observe (p : PolicySettings ν) (s : PathState ν) : Option PathId → PathState ν × PathDecision
  | none =>
      if s.isLocked then (s, .noSignal)
      else ({ s with votes := p.decayVotes s.active s.votes }, .noSignal)
  | some path => if s.isLocked then (s, .ignored path) else p.vote s path

/-- Lock a path whatever the votes say. -/
def override (s : PathState ν) (path : PathId) : PathState ν × PathDecision :=
  ({ s with active := some path, isLocked := true }, .locked path)

end PolicySettings

end Parley

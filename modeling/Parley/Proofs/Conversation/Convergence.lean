import Mathlib
import Parley.Proofs.Conversation.Signals

/-!
# Signals for one path lock it

While only one path is signalled, its votes do not decay: a signal adds one vote, and silence keeps
the votes for the active path.  At most the first signal is a change of mind, so that what a lock
requires does not grow any more.  Hence the path is locked once there have been as many signals as
the lock requires, whatever happened before them.

* `PathState.charge`: the changes of mind, with the one that a signal would be;
* `PathState.Rallies`: a path that its signals have not locked yet;
* `PolicySettings.locks_of_count`.
-/

namespace Parley

namespace PathState

section Charge

variable {ν : Type} {s : PathState ν} {path : PathId}

/-- The changes of mind that are in the count, with the one that a signal for a path would be. -/
def charge (s : PathState ν) (path : PathId) : UInt32 :=
  if PolicySettings.isSwitch s path then s.switches + 1 else s.switches

/-- A count that wraps around charges less. -/
theorem charge_le (s : PathState ν) (path : PathId) :
    (s.charge path).toNat ≤ s.switches.toNat + 1 := by
  unfold charge
  split
  · rw [UInt32.toNat_add]
    exact Nat.mod_le _ _
  · exact Nat.le_succ _

theorem charge_of_active (h : s.active = some path) : s.charge path = s.switches := by
  simp [charge, PolicySettings.isSwitch, h]

end Charge

/-- The votes for a path. -/
def votesFor (s : PathState ℚ) (path : PathId) : ℚ := (s.votes.get? path).getD 0

/-- No path is locked although this one was signalled so often, with no other signal in between.
Each of the signals is still among its votes, and they were too few for the changes of mind. -/
structure Rallies (s : PathState ℚ) (p : PolicySettings ℚ) (path : PathId) (charge : UInt32)
    (count : ℕ) : Prop where
  open_ : s.isLocked = false
  votes : ∀ e ∈ s.votes, 0 ≤ e.2
  charged : s.charge path = charge
  active : 0 < count → s.active = some path
  counted : count ≤ s.votesFor path
  short : count < p.lockThreshold + p.switchPenalty * charge.toNat

end PathState

namespace PolicySettings

variable {p : PolicySettings ℚ} {s : PathState ℚ} {path : PathId} {charge : UInt32} {count : ℕ}
  {history : List (Option PathId)}

theorem observe_nonneg (hdecay : 0 ≤ p.decay) (h : ∀ e ∈ s.votes, 0 ≤ e.2)
    (signal : Option PathId) :
    ∀ e ∈ (p.observe s signal).1.votes, 0 ≤ e.2 :=
  forall_observe_votes (P := fun e => 0 ≤ e.2) (fun _ _ hn => mul_nonneg hn hdecay) h fun path _ =>
    add_nonneg (getD_get?_nonneg h path) (Nat.cast_nonneg 1)

/-- Silence takes nothing from a path that has been signalled: its votes are those that are kept. -/
theorem silence_rallies (hdecay : 0 ≤ p.decay) (hs : s.Rallies p path charge count) :
    (p.observe s none).1.Rallies p path charge count := by
  have hvotes := observe_nonneg hdecay hs.votes none
  rw [observe_none hs.open_] at hvotes ⊢
  refine ⟨hs.open_, hvotes, hs.charged, hs.active, ?_, hs.short⟩
  rcases count.eq_zero_or_pos with rfl | hpos
  · exact_mod_cast getD_get?_nonneg hvotes path
  · have hcounted := hs.counted
    rwa [PathState.votesFor, ← p.get?_decayVotes, ← hs.active hpos] at hcounted

/-- A signal for the path locks it, or it goes on rallying with one more. -/
theorem signal_rallies (hdecay : 0 ≤ p.decay) (hs : s.Rallies p path charge count) :
    (p.observe s (some path)).1.locked? = some path ∨
      (p.observe s (some path)).1.Rallies p path charge (count + 1) := by
  have hvotes := observe_nonneg hdecay hs.votes (some path)
  -- the switch, if it is one, is the one that was charged for already
  have hswitches : (p.voted s path).switches = charge := hs.charged
  have hcounted : ((count + 1 : ℕ) : ℚ) ≤ (p.voted s path).votesFor path := by
    rw [PathState.votesFor, voted, get?_castVote, Option.getD_some]
    push_cast
    exact add_le_add_left hs.counted 1
  rw [observe_some hs.open_, vote_eq] at hvotes ⊢
  split_ifs at hvotes ⊢ with henough
  · exact .inl rfl
  · refine .inr ⟨rfl, hvotes, (PathState.charge_of_active rfl).trans hswitches, fun _ => rfl,
      hcounted, ?_⟩
    rw [required, hswitches, not_le] at henough
    exact hcounted.trans_lt henough

/-- A whole history: while the path is not locked, it rallies with all signals so far. -/
theorem observeAll_rallies (hdecay : 0 ≤ p.decay) (hs : s.Rallies p path charge 0)
    (honly : ∀ signal ∈ history, signal = none ∨ signal = some path) :
    (p.observeAll s history).locked? = some path ∨
      (p.observeAll s history).Rallies p path charge (history.count (some path)) := by
  induction history using List.reverseRecOn with
  | nil => exact .inr hs
  | append_singleton history signal ih =>
    rw [observeAll_concat]
    rcases ih fun signal h => honly signal (List.mem_append_left _ h) with hlocked | hrallies
    · rw [observe_of_isLocked p (PathState.locked?_eq_some.1 hlocked).1]
      exact .inl hlocked
    · rcases honly signal (by simp) with rfl | rfl
      · simpa using .inr (silence_rallies hdecay hrallies)
      · simpa using signal_rallies hdecay hrallies

/-- **Signals for one path lock it.**  From any state in which no path is locked, a path that alone
is signalled is locked once the signals are as many as the threshold asks for, and the penalty for
each change of mind before, and for one more.  Turns without a signal do no harm, whenever they
come. -/
theorem locks_of_count (p : PolicySettings ℚ) (hthreshold : 0 < p.lockThreshold)
    (hdecay : 0 ≤ p.decay) (hpenalty : 0 ≤ p.switchPenalty) (s : PathState ℚ)
    (hopen : s.isLocked = false) (hvotes : ∀ e ∈ s.votes, 0 ≤ e.2) (path : PathId)
    (history : List (Option PathId))
    (honly : ∀ signal ∈ history, signal = none ∨ signal = some path)
    (hcount : p.lockThreshold + p.switchPenalty * (s.switches.toNat + 1) ≤
      history.count (some path)) :
    (p.observeAll s history).locked? = some path := by
  have hstart : s.Rallies p path (s.charge path) 0 := by
    refine ⟨hopen, hvotes, rfl, nofun, ?_, ?_⟩
    · exact_mod_cast getD_get?_nonneg hvotes path
    · positivity
  refine (observeAll_rallies hdecay hstart honly).resolve_right fun hrallies =>
    absurd hrallies.short (not_lt.2 ?_)
  calc p.lockThreshold + p.switchPenalty * (s.charge path).toNat
      ≤ p.lockThreshold + p.switchPenalty * (s.switches.toNat + 1) := by
        gcongr
        exact_mod_cast s.charge_le path
    _ ≤ history.count (some path) := hcount

/-- Votes for another path, and one change of mind before: four signals and two silent turns. -/
theorem locks_of_count_standard :
    let s : PathState ℚ := ⟨some "left", false, [("left", 3 / 2), ("right", 1 / 4)], 1⟩
    let history := [none, some "right", none, some "right", some "right", some "right"]
    standardExact.lockThreshold + standardExact.switchPenalty * (s.switches.toNat + 1) ≤
        history.count (some "right") ∧
      (standardExact.observeAll s history).locked? = some "right" := by
  intro s history
  have hcount : standardExact.lockThreshold + standardExact.switchPenalty * (s.switches.toNat + 1) ≤
      history.count (some "right") := by
    decide +kernel
  exact ⟨hcount, standardExact.locks_of_count (by decide +kernel) (by decide +kernel)
    (by decide +kernel) s rfl
    (by decide +kernel) "right" history (by decide) hcount⟩

end PolicySettings

end Parley

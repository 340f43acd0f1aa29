import Mathlib
import Parley.Proofs.Conversation.Votes

/-!
# What the policy knows of a history of signals

Whatever kind of number votes are counted in, and however they decay, the state of the policy
follows from the signals alone, up to the votes: the last signal is active, the changes of mind are
counted in 32 bits, and only paths that were signalled have votes.  This goes on up to the turn that
locks a path, which is the path of its signal; then nothing changes.

* `PolicySettings.observeAll`, `PolicySettings.decisions`: a history of turns, taken in one after
  the other;
* `PolicySettings.active_vote` and the lemmas after it: what a signal leaves behind;
* `PathState.Tells`: the state of the policy as its history has it;
* `PolicySettings.tells_history`;
* `PolicySettings.switches_wrapped`: a count that has wrapped around.
-/

namespace Parley

theorem PathState.locked?_eq_some {ν : Type} {s : PathState ν} {path : PathId} :
    s.locked? = some path ↔ s.isLocked = true ∧ s.active = some path := by
  unfold locked?
  split <;> simp_all

theorem PathState.locked?_eq_none {ν : Type} {s : PathState ν} (h : s.isLocked = false) :
    s.locked? = none := by
  simp [locked?, h]

namespace PolicySettings

variable {ν : Type} [NatCast ν] [Add ν] [Mul ν] [Div ν] [LE ν] [DecidableLE ν]

/-! ### One signal -/

section Vote

variable (p : PolicySettings ν) (s : PathState ν) (path : PathId)

/-- The state after a signal, but for the lock. -/
def voted : PathState ν where
  active := some path
  votes := p.castVote path s.votes
  switches := if isSwitch s path then s.switches + 1 else s.switches

theorem vote_eq : p.vote s path =
    if p.required (p.voted s path) ≤ ((p.voted s path).votes.get? path).getD ((0 : Nat) : ν) then
      ({ p.voted s path with isLocked := true }, .locked path)
    else (p.voted s path, .tentative path (isSwitch s path)) :=
  rfl

theorem active_vote : (p.vote s path).1.active = some path := by
  rw [vote_eq]
  split_ifs <;> rfl

theorem switches_vote :
    (p.vote s path).1.switches = if isSwitch s path then s.switches + 1 else s.switches := by
  rw [vote_eq]
  split <;> rfl

theorem votes_vote : (p.vote s path).1.votes = p.castVote path s.votes := by
  rw [vote_eq]
  split_ifs <;> rfl

/-- The decision on a signal says which path is locked after it. -/
theorem decision_vote : (p.vote s path).2.locked? = (p.vote s path).1.locked? := by
  rw [vote_eq]
  split_ifs <;> rfl

theorem eq_of_decision_vote {other : PathId} (h : (p.vote s path).2 = .locked other) :
    other = path := by
  rw [vote_eq] at h
  split_ifs at h
  cases h
  rfl

end Vote

/-! ### One turn -/

variable {p : PolicySettings ν} {s : PathState ν} {signal : Option PathId}
    {history : List (Option PathId)}

theorem observe_none (h : s.isLocked = false) :
    p.observe s none = ({ s with votes := p.decayVotes s.active s.votes }, .noSignal) := by
  simp [observe, h]

theorem observe_some (h : s.isLocked = false) (path : PathId) :
    p.observe s (some path) = p.vote s path := by
  simp [observe, h]

/-- While no path is locked, the decision on a turn says which path is locked after it. -/
theorem decision_observe (h : s.isLocked = false) :
    (p.observe s signal).2.locked? = (p.observe s signal).1.locked? := by
  cases signal with
  | none =>
    rw [observe_none h]
    exact (PathState.locked?_eq_none h).symm
  | some path => rw [observe_some h, decision_vote]

/-- Once a path is locked, no other one is. -/
theorem decision_observe_of_isLocked (h : s.isLocked = true) :
    (p.observe s signal).2.locked? = none := by
  cases signal <;> simp [observe, h, PathDecision.locked?]

/-- A turn locks the path of its signal. -/
theorem signal_of_decision {path : PathId} (h : (p.observe s signal).2 = .locked path) :
    signal = some path := by
  cases hlocked : s.isLocked with
  | true => cases signal <;> simp [observe, hlocked] at h
  | false =>
    cases signal with
    | none =>
      rw [observe_none hlocked] at h
      cases h
    | some other =>
      rw [observe_some hlocked] at h
      rw [eq_of_decision_vote p s other h]

/-- What holds of all votes, also once they decay, goes on doing so if it holds of those for the
path of a signal. -/
theorem forall_observe_votes {P : PathId × ν → Prop}
    (hdecay : ∀ path n, P (path, n) → P (path, n * p.decay)) (h : ∀ e ∈ s.votes, P e)
    (hsignal : ∀ path, signal = some path →
      P (path, (s.votes.get? path).getD ((0 : Nat) : ν) + ((1 : Nat) : ν))) :
    ∀ e ∈ (p.observe s signal).1.votes, P e := by
  cases hlocked : s.isLocked with
  | true => rwa [observe_of_isLocked p hlocked]
  | false =>
    cases signal with
    | none =>
      rw [observe_none hlocked]
      exact forall_decayVotes hdecay h s.active
    | some path =>
      rw [observe_some hlocked, votes_vote]
      exact forall_castVote hdecay h (hsignal path rfl)

end PolicySettings

/-- The state has the last signal of a history for its active path, and has counted in 32 bits how
often the signals change. -/
structure PathState.Tells {ν : Type} (s : PathState ν) (history : List (Option PathId)) : Prop where
  active : s.active = (signals history).getLast?
  switches : s.switches = UInt32.ofNat (changes (signals history))

namespace PolicySettings

variable {ν : Type} [NatCast ν] [Add ν] [Mul ν] [Div ν] [LE ν] [DecidableLE ν]
  {p : PolicySettings ν} {s : PathState ν} {signal : Option PathId} {history : List (Option PathId)}

/-- The turn that finds no path locked is told of, also if it locks one. -/
theorem observe_tells (hopen : s.isLocked = false) (hs : s.Tells history) :
    (p.observe s signal).1.Tells (history ++ [signal]) := by
  cases signal with
  | none =>
    rw [observe_none hopen]
    exact ⟨by rw [signals_concat_none, hs.active], by rw [signals_concat_none, hs.switches]⟩
  | some path =>
    rw [observe_some hopen]
    refine ⟨?_, ?_⟩
    · rw [active_vote, signals_concat_some, List.getLast?_concat]
    · rw [switches_vote, isSwitch, hs.active, hs.switches, signals_concat_some,
        ofNat_changes_concat]

/-! ### Histories -/

/-- The state after turns with these signals, `none` being silence. -/
def observeAll (p : PolicySettings ν) (s : PathState ν) (history : List (Option PathId)) :
    PathState ν :=
  history.foldl (fun s signal => (p.observe s signal).1) s

/-- The decisions on turns with these signals, one for each. -/
def decisions (p : PolicySettings ν) (s : PathState ν) : List (Option PathId) → List PathDecision
  | [] => []
  | signal :: rest => (p.observe s signal).2 :: decisions p (p.observe s signal).1 rest

theorem observeAll_concat (p : PolicySettings ν) (s : PathState ν) (history : List (Option PathId))
    (signal : Option PathId) :
    p.observeAll s (history ++ [signal]) = (p.observe (p.observeAll s history) signal).1 :=
  List.foldl_concat ..

theorem observeAll_append (p : PolicySettings ν) (s : PathState ν)
    (history more : List (Option PathId)) :
    p.observeAll s (history ++ more) = p.observeAll (p.observeAll s history) more :=
  List.foldl_append ..

/-- Once a path is locked, nothing changes any more. -/
theorem observeAll_of_isLocked (h : s.isLocked = true) (history : List (Option PathId)) :
    p.observeAll s history = s := by
  induction history with
  | nil => rfl
  | cons signal rest ih =>
    rw [observeAll, List.foldl_cons, observe_of_isLocked p h]
    exact ih

theorem isLocked_of_concat (h : (p.observeAll s (history ++ [signal])).isLocked = false) :
    (p.observeAll s history).isLocked = false := by
  by_contra hlocked
  rw [Bool.not_eq_false] at hlocked
  rw [observeAll_append, observeAll_of_isLocked hlocked, hlocked] at h
  cases h

/-- While no path is locked, the state tells of all turns. -/
theorem observeAll_tells_of_open (h : (p.observeAll {} history).isLocked = false) :
    (p.observeAll {} history).Tells history := by
  induction history using List.reverseRecOn with
  | nil => exact ⟨rfl, rfl⟩
  | append_singleton history signal ih =>
    have hopen := isLocked_of_concat h
    rw [observeAll_concat]
    exact observe_tells hopen (ih hopen)

/-- The state tells of all turns when the last one has found no path locked. -/
theorem observeAll_tells (h : (p.observeAll {} history.dropLast).isLocked = false) :
    (p.observeAll {} history).Tells history := by
  cases history using List.reverseRecOn with
  | nil => exact ⟨rfl, rfl⟩
  | append_singleton history signal =>
    rw [List.dropLast_concat] at h
    rw [observeAll_concat]
    exact observe_tells h (observeAll_tells_of_open h)

/-- Votes are stored for paths that were signalled. -/
theorem observeAll_votes (p : PolicySettings ν) (history : List (Option PathId)) :
    ∀ e ∈ (p.observeAll {} history).votes, e.1 ∈ signals history := by
  induction history using List.reverseRecOn with
  | nil => exact nofun
  | append_singleton history signal ih =>
    rw [observeAll_concat]
    refine forall_observe_votes (P := fun e => e.1 ∈ signals (history ++ [signal])) (fun _ _ => id)
      (fun e he => ?_)
      fun path hpath => ?_
    · rw [signals, List.filterMap_append]
      exact List.mem_append_left _ (ih e he)
    · simp [signals, hpath]

theorem decisions_concat (p : PolicySettings ν) (s : PathState ν) (history : List (Option PathId))
    (signal : Option PathId) :
    p.decisions s (history ++ [signal]) =
      p.decisions s history ++ [(p.observe (p.observeAll s history) signal).2] := by
  induction history generalizing s with
  | nil => rfl
  | cons first rest ih =>
    rw [List.cons_append, decisions, decisions, ih]
    rfl

/-- The paths that the decisions lock are the one that is locked in the end, if there is one. -/
theorem filterMap_decisions (h : s.isLocked = false) (history : List (Option PathId)) :
    (p.decisions s history).filterMap PathDecision.locked? =
      (p.observeAll s history).locked?.toList := by
  induction history using List.reverseRecOn with
  | nil => exact (congrArg Option.toList (PathState.locked?_eq_none h)).symm
  | append_singleton history signal ih =>
    rw [decisions_concat, List.filterMap_append, ih, observeAll_concat]
    cases hlocked : (p.observeAll s history).isLocked with
    | true => simp [observe_of_isLocked p hlocked, decision_observe_of_isLocked hlocked]
    | false =>
      rw [PathState.locked?_eq_none hlocked, ← decision_observe hlocked]
      cases h : (p.observe (p.observeAll s history) signal).2.locked? <;> simp [h]

/-- A path is locked by a turn that signals it. -/
theorem signal_of_decisions {i : ℕ} {path : PathId}
    (h : (p.decisions s history)[i]? = some (.locked path)) :
    history[i]? = some (some path) := by
  induction history generalizing s i with
  | nil => cases h
  | cons signal rest ih =>
    cases i with
    | zero => exact congrArg some (signal_of_decision (Option.some.inj h))
    | succ i => exact ih h

/-- **The state of the policy is a function of the signals.**  Up to and including the turn that
locks a path, the last signal is active, and the switches are the signals that differ from the one
before, modulo `2 ^ 32`.  At most one decision locks a path, which is then the locked one, and the
turn of that decision has signalled it.  Votes are stored for paths that were signalled only.  Once
a path is locked, no further turn changes anything. -/
theorem tells_history (p : PolicySettings ν) (history : List (Option PathId)) :
    ((p.observeAll {} history.dropLast).isLocked = false →
      (p.observeAll {} history).active = (signals history).getLast? ∧
        (p.observeAll {} history).switches.toNat = changes (signals history) % 2 ^ 32) ∧
    (p.decisions {} history).filterMap PathDecision.locked? =
      (p.observeAll {} history).locked?.toList ∧
    (∀ (i : ℕ) (path : PathId), (p.decisions {} history)[i]? = some (.locked path) →
      history[i]? = some (some path)) ∧
    (∀ e ∈ (p.observeAll {} history).votes, e.1 ∈ signals history) ∧
    ((p.observeAll {} history).isLocked = true →
      ∀ more, p.observeAll {} (history ++ more) = p.observeAll {} history) := by
  refine ⟨fun hopen => ?_, filterMap_decisions rfl history, fun i path => signal_of_decisions,
    p.observeAll_votes history, fun hlocked more => ?_⟩
  · have htells := observeAll_tells hopen
    exact ⟨htells.active, by rw [htells.switches, UInt32.toNat_ofNat']⟩
  · rw [observeAll_append, observeAll_of_isLocked hlocked]

/-- One change of mind, a path that is locked, and a signal that comes too late. -/
theorem tells_history_standard :
    let history := [some "left", none, some "right", some "right", some "right"]
    let s := standard.observeAll {} history
    s.active = some "right" ∧ s.switches.toNat = 1 ∧
      (standard.decisions {} history).filterMap PathDecision.locked? = ["right"] ∧
      history[4]? = some (some "right") ∧
      (∀ e ∈ s.votes, e.1 = "left" ∨ e.1 = "right") ∧
      standard.observeAll {} (history ++ [some "left"]) = s := by
  intro history s
  have hopen : (standard.observeAll {} history.dropLast).isLocked = false := by decide +kernel
  have hlocked : s.isLocked = true := by decide +kernel
  obtain ⟨htells, honce, hsignal, hvotes, hlast⟩ := tells_history standard history
  obtain ⟨hactive, hswitches⟩ := htells hopen
  refine ⟨hactive, hswitches, ?_, hsignal 4 "right" (by decide +kernel), fun e he => ?_,
    hlast hlocked [some "left"]⟩
  · rw [honce, PathState.locked?, if_pos hlocked, hactive]
    rfl
  · simpa [history, signals, or_assoc] using hvotes e he

/-- After `2 ^ 32` changes of mind, with no path locked yet, the count says that there was none. -/
theorem switches_wrapped :
    let history := toAndFro (2 ^ 31)
    (forgetful.observeAll {} history).isLocked = false ∧ changes (signals history) = 2 ^ 32 ∧
      (forgetful.observeAll {} history).switches = 0 := by
  intro history
  have hafter : forgetful.observeAll {} history = oneVote "left" 0 := after_toAndFro (2 ^ 31)
  rw [hafter]
  exact ⟨rfl, (changes_toAndFro (2 ^ 31)).1, rfl⟩

end PolicySettings

end Parley

import Parley.Proofs.Service.Turns

/-!
# The order of execution

Each lane executes its commands one at a time, in the order in which it has accepted them.  A thread
does so unless a lane is opened for it too early; and that can happen, as a lane may leave the
registry while callers still use it.

* `Switchboard.InOrder`: commands are executed one at a time, in the order in which they were
  accepted;
* `Switchboard.executed_in_order`;
* `Samples.overtaking`: a call that closes a conversation while another one is on its way.
-/

namespace Parley

namespace Switchboard

variable {capacity : ℕ} {x y : Switchboard} {e : Event} {i j k : ℕ} {c : Caller} {w w' : Worker}
    {t : Ticket}
  {key : ThreadKey} {stage : Stage} {lane : Lane Ticket} {events : List Event}

/-! ### Order -/

/-- Of the tickets of some kind, those were begun that were accepted first, and only the last one of
them may still be executed. -/
structure InOrder (x : Switchboard) (p : Ticket → Bool) : Prop where
  order : x.begun.filter p <+: x.accepted.filter p
  alone : ∀ w ∈ x.workers, ∀ t, w.running = some t → p t = true →
      (x.begun.filter p).getLast? = some t

theorem IsSound.inOrder_lane (h : x.IsSound) (j : ℕ) : x.InOrder (·.lane = j) where
  order := h.begun_prefix j
  alone := by
    intro w hw t ht hlane
    obtain ⟨k, hk⟩ := List.mem_iff_getElem?.1 hw
    obtain rfl : k = j := (h.of_running hk ht).2.1.symm.trans (of_decide_eq_true hlane)
    exact h.running k w t hk ht

theorem IsAligned.inOrder (h : x.IsAligned key) (hx : x.IsSound) : x.InOrder (·.key = key) where
  order := ⟨_, h.order.symm⟩
  alone := by
    intro w hw t ht hkey
    obtain ⟨k, hk⟩ := List.mem_iff_getElem?.1 hw
    exact h.alone k w t hk ((hx.of_running hk ht).2.2.trans (of_decide_eq_true hkey)) ht

/-- **Commands are executed once, and those of a lane in order.**  However the steps of callers and
workers fall, no command is executed that no lane has accepted, and none twice; and each lane
executes its commands one at a time, in the order in which it has accepted them.  So does a thread,
as long as no lane is opened for it while something is left to do in a lane before that one: in
particular if its conversation is not closed and its lane does not expire, or if its calls do not
overlap. -/
theorem executed_in_order (h : run? capacity events = some x) :
    (∀ t ∈ x.begun, t ∈ x.accepted) ∧ (x.begun.map Ticket.caller).Nodup ∧
      (∀ j, x.InOrder (·.lane = j)) ∧
      ∀ key, TakesTurns capacity key events ∨ StaysOpen capacity key events ∨
        CallsInTurn capacity key events →
        x.InOrder (·.key = key) := by
  have hsound : x.IsSound := .run h
  refine ⟨hsound.begun, hsound.begun_nodup, hsound.inOrder_lane, fun key hevents => ?_⟩
  have hturns : TakesTurns capacity key events := by
    rcases hevents with hturns | hstays | hcalls
    · exact hturns
    · exact hstays.takesTurns
    · exact hcalls.takesTurns
  exact (IsAligned.run h hturns).inOrder hsound

end Switchboard

namespace Samples

/-- A thread. -/
def busyThread : ThreadKey := ⟨"acme", "t1"⟩

/-- Two calls of a thread share its lane, and the later one is accepted first. -/
def sharing : List Switchboard.Event := [
  .call busyThread (.operate (.resume none)), .lookUp 0,
  .call busyThread (.operate (.resume none)), .lookUp 1, .send 1, .begin 0, .send 0,
    .finish 0, .begin 0]

/-- What this leads to: the second command is being executed. -/
def shared : Switchboard where
  callers := [
    ⟨busyThread, .operate (.resume none), .waiting⟩,
    ⟨busyThread, .operate (.resume none), .done⟩]
  workers := [⟨busyThread, { capacity := 1 }, some ⟨busyThread, 0, 0⟩, false⟩]
  registry := [(busyThread, 0)]
  accepted := [⟨busyThread, 0, 1⟩, ⟨busyThread, 0, 0⟩]
  begun := [⟨busyThread, 0, 1⟩, ⟨busyThread, 0, 0⟩]

theorem sharing_inOrder :
    Switchboard.run? 1 sharing = some shared ∧ Switchboard.StaysOpen 1 busyThread sharing ∧
      shared.InOrder (·.key = busyThread) := by
  have hrun : Switchboard.run? 1 sharing = some shared := by cbv
  have hstays : Switchboard.StaysOpen 1 busyThread sharing := by
    refine ⟨by simp [sharing], fun past j x hinit => ?_⟩
    have hmem := hinit.subset (List.mem_append_right past List.mem_cons_self)
    simp [sharing] at hmem
  exact ⟨hrun, hstays, (Switchboard.executed_in_order hrun).2.2.2 busyThread (.inr (.inl hstays))⟩

/-! ### A lane that is left too early -/

/-- A caller has looked up the lane of its thread when another caller closes the conversation and
takes the lane out of the registry.  Its command gets into the lane after all, and the next one into
a new lane. -/
def overtaking : List Switchboard.Event := [
  .call busyThread (.operate (.resume none)), .lookUp 0,
  .call busyThread .close, .lookUp 1, .send 1, .begin 0, .finish 0, .leave 1,
  .send 0,
  .call busyThread (.operate (.resume none)), .lookUp 2, .send 2, .begin 1, .begin 0]

/-- What this leads to: both workers are busy. -/
def overtaken : Switchboard where
  callers := [
    ⟨busyThread, .operate (.resume none), .waiting⟩,
    ⟨busyThread, .close, .done⟩,
    ⟨busyThread, .operate (.resume none), .waiting⟩]
  workers := [
    ⟨busyThread, { capacity := 1 }, some ⟨busyThread, 0, 0⟩, false⟩,
    ⟨busyThread, { capacity := 1 }, some ⟨busyThread, 1, 2⟩, false⟩]
  registry := [(busyThread, 1)]
  accepted := [⟨busyThread, 0, 1⟩, ⟨busyThread, 0, 0⟩, ⟨busyThread, 1, 2⟩]
  begun := [⟨busyThread, 0, 1⟩, ⟨busyThread, 1, 2⟩, ⟨busyThread, 0, 0⟩]

/-- The command that was accepted last begins first, and two commands of the thread are executed at
once. -/
theorem overtaking_not_inOrder :
    Switchboard.run? 1 overtaking = some overtaken ∧ ¬ overtaken.InOrder (·.key = busyThread) := by
  refine ⟨by cbv, fun h => ?_⟩
  exact absurd h.order (by decide +kernel)

end Samples

end Parley

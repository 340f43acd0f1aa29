import Parley.Proofs.Store.Kept
import Parley.Proofs.Store.Restored

/-!
# What a store finds of a conversation

A store that keeps documents need not find all of a conversation as it was: a number may be read as
a neighbour of itself.  But whatever it finds has the turn, the status and the path of the
conversation that was kept.

* `Conversation.Agrees`: conversations of which the same is to be told;
* `Conversation.agrees_of_document`, `Store.conversation_agrees`.
-/

namespace Parley

open Json

/-- Turn, status, active path and lock are the same. -/
structure Conversation.Agrees (c c' : Conversation) : Prop where
  turn : c'.turn = c.turn
  status : c'.status = c.status
  active : c'.path.active = c.path.active
  isLocked : c'.path.isLocked = c.path.isLocked

theorem Conversation.Agrees.refl (c : Conversation) : c.Agrees c := ⟨rfl, rfl, rfl, rfl⟩

/-! ### Fields of a document -/

namespace Json

theorem Reader.intBetween_eq_ok {lo hi i : Int} {d : Document}
    (h : Reader.intBetween lo hi d = .ok i) :
    d = .number (some (.int i)) ∧ lo ≤ i ∧ i ≤ hi := by
  unfold Reader.intBetween at h
  split at h
  · split_ifs at h with hbounds
    cases h
    exact ⟨rfl, hbounds⟩
  · cases h

/-- The text of a whole number is read as that number or not at all. -/
theorem Reader.natBits_document {bits n m : Nat}
    (h : Reader.natBits bits (Json.nat n).document = .ok m) : m = n := by
  obtain ⟨i, hi, rfl⟩ := map_eq_ok.1 h
  obtain ⟨hdocument, hpos, -⟩ := intBetween_eq_ok hi
  obtain ⟨m, rfl⟩ := Int.eq_ofNat_of_zero_le hpos
  exact Number.eq_of_document hdocument

/-- A value without numbers is read as it was written. -/
theorem document_of_numbers {j : Json} (h : j.numbers = []) : j.document = Document.ofJson j :=
  IsLegible.document_eq fun n hn => by
    rw [h] at hn
    cases hn

end Json

/-! ### Conversations -/

theorem Status.numbers_toJson (s : Status) : s.toJson.numbers = [] := by
  cases s with
  | awaitingInput | terminal node => rfl
  | escalated reason => cases reason <;> rfl

namespace Conversation

variable {c c' : Conversation}

/-- What is read of the path, wherever its members stand. -/
theorem path_of_document {fs : Fields} {active : Option PathId} {isLocked : Bool}
    {path : PathState Binary64}
    (hactive : (fs.find? "active_path").map Prod.snd = some (ofOption .string active).document)
    (hlocked : (fs.find? "path_locked").map Prod.snd = some (.bool isLocked))
    (h : PathState.record.read fs = .ok path) :
    path.active = active ∧ path.isLocked = isLocked := by
  simp only [PathState.record, Record.read_seq, Record.read_map] at h
  obtain ⟨_, switches, hvotes, -, rfl⟩ := both_eq_ok.1 h
  obtain ⟨_, votes, hlock, -, rfl⟩ := both_eq_ok.1 hvotes
  obtain ⟨_, isLocked', hmk, hreadLocked, rfl⟩ := both_eq_ok.1 hlock
  obtain ⟨_, active', hrecord, hreadActive, rfl⟩ := both_eq_ok.1 hmk
  cases hrecord
  obtain ⟨⟨i, d⟩, hfindActive, rfl⟩ := Option.map_eq_some_iff.1 hactive
  obtain ⟨⟨j, d⟩, hfindLocked, rfl⟩ := Option.map_eq_some_iff.1 hlocked
  unfold Record.optional at hreadActive
  have hreadActive : Reader.text.option _ = .ok active' := field_eq_ok hfindActive hreadActive
  have hreadLocked : Reader.bool _ = .ok isLocked' := field_eq_ok hfindLocked hreadLocked
  refine ⟨?_, (Except.ok.inj hreadLocked).symm⟩
  cases active with
  | none | some path => exact (Except.ok.inj hreadActive).symm

/-- The document of the state of a conversation. -/
theorem stateJson_document (c : Conversation) :
    ∃ version frames votes switches, c.stateJson.document = .object [
    ("flow_id", .string (some c.flow)), ("version", version), ("status", c.status.toJson.document),
    ("current_node_id", .string (some c.position.node)), ("call_stack", frames),
    ("active_path", (ofOption .string c.path.active).document),
    ("path_locked", .bool c.path.isLocked),
    ("path_votes", votes), ("path_switches", switches), ("turn", (Json.nat c.turn).document)]
      none :=
  ⟨_, _, _, _, rfl⟩

theorem agrees_of_stateDocument (h : stateReader c.stateJson.document = .ok c') : c.Agrees c' := by
  obtain ⟨_, _, _, _, hdocument⟩ := c.stateJson_document
  rw [hdocument] at h
  have hread := objectReader_eq_ok h
  simp only [Record.read_seq, Record.read_map] at hread
  -- the fields are applied one after the other, the flow innermost
  obtain ⟨_, turn, hpaths, hturn, rfl⟩ := both_eq_ok.1 hread
  obtain ⟨_, path, hframes, hpath, rfl⟩ := both_eq_ok.1 hpaths
  obtain ⟨_, frames, hnodes, -, rfl⟩ := both_eq_ok.1 hframes
  obtain ⟨_, node, hstatuses, -, rfl⟩ := both_eq_ok.1 hnodes
  obtain ⟨_, status, hversions, hstatus, rfl⟩ := both_eq_ok.1 hstatuses
  obtain ⟨_, version, hflows, -, rfl⟩ := both_eq_ok.1 hversions
  obtain ⟨_, flow, hofState, -, rfl⟩ := both_eq_ok.1 hflows
  cases hofState
  obtain ⟨hactive, hlocked⟩ : path.active = c.path.active ∧ path.isLocked = c.path.isLocked :=
    path_of_document rfl rfl hpath
  have hstatus := field_eq_ok rfl hstatus
  rw [document_of_numbers c.status.numbers_toJson] at hstatus
  exact ⟨Reader.natBits_document (field_eq_ok rfl hturn),
    Except.ok.inj (hstatus.symm.trans c.status.reader_ofJson), hactive, hlocked⟩

/-- What is read of the text of a conversation agrees with it. -/
theorem agrees_of_document (h : reader c.toJson.document = .ok c') : c.Agrees c' := by
  have hmembers : ∃ answers context, c.toJson.document =
      .object [("state", c.stateJson.document), ("answers", answers), ("context", context)] none :=
    ⟨_, _, rfl⟩
  obtain ⟨_, _, hdocument⟩ := hmembers
  rw [hdocument] at h
  have hread := reader_eq_ok h
  simp only [Record.read_seq, Record.read_map] at hread
  obtain ⟨_, context, hanswers, -, rfl⟩ := both_eq_ok.1 hread
  obtain ⟨_, answers, hstates, -, rfl⟩ := both_eq_ok.1 hanswers
  obtain ⟨_, state, hbuild, hstate, rfl⟩ := both_eq_ok.1 hstates
  cases hbuild
  have hagrees := agrees_of_stateDocument (field_eq_ok rfl hstate)
  exact ⟨hagrees.turn, hagrees.status, hagrees.active, hagrees.isLocked⟩

end Conversation

namespace Store

variable {s : Store} {c c' : Conversation} {key : ThreadKey}

theorem keptConversation_agrees (h : s.keptConversation c = .ok c') : c.Agrees c' := by
  cases hs : s.backend with
  | memory =>
    rw [keptConversation_of_memory hs] at h
    exact Except.ok.inj h ▸ .refl c
  | sqlite =>
    rw [keptConversation, hs] at h
    exact Conversation.agrees_of_document
      ((Reader.ofText_compact Conversation.reader_heeds).1 (mapError_eq_ok.1 h)).2

/-- **What a store finds of a thread agrees with what it keeps.** -/
theorem conversation_agrees {found : Option Conversation} (h : s.conversation key = .ok found) :
    (s.conversations.get? key = none ∧ found = none) ∨
      ∃ c c', s.conversations.get? key = some c ∧ found = some c' ∧ c.Agrees c' := by
  rcases option_mapM_eq_ok.1 h with ⟨hnone, hfound⟩ | ⟨c, c', hc, hkept, hfound⟩
  · exact .inl ⟨hnone, hfound⟩
  · exact .inr ⟨c, c', hc, hfound, keptConversation_agrees hkept⟩

end Store

end Parley

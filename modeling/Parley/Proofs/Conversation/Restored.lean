import Parley.Conversation.Codec
import Parley.Proofs.Flow.Restored

/-!
# Conversations restored from documents

A conversation is read as it was written: the status by its name, the frames in reverse order, and
the state of the path choice from members among those of the conversation.

* `PathState.Fits`, `Answer.Fits`, `Conversation.Fits`: values of the types that they are kept in,
  all of them finite;
* `Status.reader_ofJson`, `Conversation.reader_ofJson`.
-/

namespace Parley

open Json Record

/-! ### Status and place -/

theorem EscalationReason.reader_ofJson (r : EscalationReason) : reader.ofJson r.toJson = .ok r := by
  cases r with
  | requested => exact Restores.tagged (s := "extractor_signal") rfl (.pure _) (by decide)
  | node id =>
    exact Restores.tagged (s := "node") rfl (.map EscalationReason.node (.text "node" id))
      (by decide)
  | deadEnd id =>
    exact Restores.tagged (s := "dead_end") rfl
      (.map EscalationReason.deadEnd (.text "node" id)) (by decide)

theorem EscalationReason.reader_heeds : reader.Heeds := by
  refine Heeds.tagged fun s r hr => ?_
  unfold recordOf? at hr
  split at hr <;> cases hr
  · exact ⟨.pure _, by decide⟩
  · exact ⟨.map EscalationReason.node (.required .text), by decide⟩
  · exact ⟨.map EscalationReason.deadEnd (.required .text), by decide⟩

theorem Status.reader_ofJson (s : Status) : reader.ofJson s.toJson = .ok s := by
  cases s with
  | awaitingInput => exact Restores.tagged (s := "awaiting_input") rfl (.pure _) (by decide)
  | escalated reason =>
    exact Restores.tagged (s := "escalated") rfl
      (.map Status.escalated (.required "reason" reason.reader_ofJson)) (by decide)
  | terminal node =>
    exact Restores.tagged (s := "terminal") rfl
      (.map Status.terminal (.text "node" node)) (by decide)

theorem Status.reader_heeds : reader.Heeds := by
  refine Heeds.tagged fun s r hr => ?_
  unfold recordOf? at hr
  split at hr <;> cases hr
  · exact ⟨.pure _, by decide⟩
  · exact ⟨.map Status.escalated (.required EscalationReason.reader_heeds), by decide⟩
  · exact ⟨.map Status.terminal (.required .text), by decide⟩

theorem Frame.reader_ofJson (f : Frame) : reader.ofJson f.toJson = .ok f :=
  (Restores.map Frame.mk (.required "scope" rfl) |>.seq (.text "caller" f.caller)).reader
    (by decide)

theorem Frame.reader_heeds : reader.Heeds :=
  (Heeds.map Frame.mk (.required Reader.Heeds.text.map) |>.seq (.required .text)).reader (by decide)

/-! ### Votes and answers -/

/-- Votes are finite and sorted by path. -/
structure PathState.Fits (s : PathState Binary64) : Prop where
  paths : s.votes.Ordered
  finite : ∀ e ∈ s.votes, e.2.isFinite = true

theorem PathState.record_restores {s : PathState Binary64} (hs : s.Fits) :
    record.Restores s.members s :=
  Restores.map PathState.mk (.ofOption "active_path" .string (fun _ _ => nofun) fun _ _ => rfl)
    |>.seq (.defaulted "path_locked" rfl)
    |>.seq (.defaulted "path_votes"
      (Reader.dict_ofJson hs.paths fun e he => Reader.float_ofJson (hs.finite e he)))
    |>.seq (.defaulted "path_switches" (Reader.uint32_ofJson s.switches))

theorem PathState.record_heeds : record.Heeds :=
  Heeds.map PathState.mk (.optional .text)
    |>.seq (.defaulted .bool) |>.seq (.defaulted Reader.Heeds.float.dict)
    |>.seq (.defaulted .uint32)

/-- The turn is a number of 64 bits, the confidence is finite and of single precision, and the value
is sorted. -/
structure Answer.Fits (a : Answer) : Prop where
  value : a.value.IsSorted
  turn : a.turn < 2 ^ 64
  finite : a.confidence.isFinite = true
  single : a.confidence.toSingle = a.confidence

theorem Answer.reader_ofJson {a : Answer} (ha : a.Fits) : reader.ofJson a.toJson = .ok a :=
  (Restores.map Answer.mk (.required "value" (Reader.json_ofJson ha.value))
    |>.seq (.required "turn" (Reader.natBits_ofJson ha.turn))
    |>.seq (.required "confidence" (Reader.single_ofJson ha.finite ha.single))).reader (by decide)

theorem Answer.reader_heeds : reader.Heeds :=
  (Heeds.map Answer.mk (.required .json)
    |>.seq (.required (.natBits 64)) |>.seq (.required .single)).reader (by decide)

/-! ### Conversations -/

/-- All numbers fit their types and are finite, and answers and context are sorted. -/
structure Conversation.Fits (c : Conversation) : Prop where
  version : c.version < 2 ^ 64
  path : c.path.Fits
  turn : c.turn < 2 ^ 64
  keys : c.answers.Ordered
  answers : ∀ e ∈ c.answers, e.2.Fits
  context : (Json.object c.context).IsSorted

namespace Conversation

variable {c : Conversation}

theorem stateReader_ofJson (hc : c.Fits) :
    stateReader.ofJson c.stateJson = .ok { c with answers := [], context := [] } := by
  have hstate : { c with answers := [], context := [] } =
      ofState c.flow c.version c.status c.position.node c.position.stack.reverse c.path c.turn := by
    rw [ofState, List.reverse_reverse]
  rw [hstate]
  exact (Restores.map ofState (.text "flow_id" c.flow)
    |>.seq (.required "version" (Reader.natBits_ofJson hc.version))
    |>.seq (.required "status" c.status.reader_ofJson)
    |>.seq (.text "current_node_id" c.position.node)
    |>.seq (.defaulted "call_stack" (Reader.list_ofJson fun f _ => f.reader_ofJson))
    |>.seq (PathState.record_restores hc.path)
    |>.seq (.defaulted "turn" (Reader.natBits_ofJson hc.turn))).objectReader (by decide)

theorem stateReader_heeds : stateReader.Heeds :=
  (Heeds.map ofState (.required .text)
    |>.seq (.required (.natBits 64)) |>.seq (.required Status.reader_heeds) |>.seq (.required .text)
    |>.seq (.defaulted Frame.reader_heeds.list) |>.seq PathState.record_heeds
    |>.seq (.defaulted (.natBits 64))).objectReader

/-- **A conversation is read as it was written.** -/
theorem reader_ofJson (hc : c.Fits) : reader.ofJson c.toJson = .ok c :=
  (Restores.map _ (.required "state" (stateReader_ofJson hc))
    |>.seq (.defaulted "answers"
      (Reader.dict_ofJson hc.keys fun e he => Answer.reader_ofJson (hc.answers e he)))
    |>.seq (.defaulted "context" (Reader.jsonObject_ofJson hc.context))).reader (by decide)

theorem reader_heeds : reader.Heeds :=
  (Heeds.map _ (.required stateReader_heeds)
    |>.seq (.defaulted Answer.reader_heeds.dict) |>.seq (.defaulted .jsonObject)).reader (by decide)

end Conversation

end Parley

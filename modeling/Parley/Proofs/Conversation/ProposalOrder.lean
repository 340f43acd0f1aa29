import Parley.Proofs.Collections
import Parley.Proofs.Conversation.Warned

/-!
# The order of proposals

What becomes of a proposal does not depend on the other proposals of its turn, and what is stored
for a key comes from the proposals for that key alone.  So the proposals of a turn may come in any
order that keeps the order of those for the same key: the conversation after the turn is the same.

* `Conversation.get?_addAll_filter`: the entries for a key decide what is found under it;
* `Engine.Reaches.answers_ordered`: answers are kept in order of their keys;
* `Proposal.Rearranged`: the same proposals, in an order that keeps that for each key;
* `Engine.turn_rearranged`.
-/

namespace Parley

variable {g : Graph} {e : Engine} {c : Conversation}

/-! ### Entries for one key -/

namespace Conversation

variable {answers answers' : Dict Answer} {key : AnswerKey}

theorem addAll_ordered (h : answers.Ordered) (es : List (AnswerKey × Answer)) :
    (addAll answers es).Ordered := by
  induction es generalizing answers with
  | nil => exact h
  | cons e es ih => exact ih (h.insert e.1 e.2)

/-- What is found under a key depends on the entries for this key only, and on what was found
before. -/
theorem get?_addAll_filter (h : answers.get? key = answers'.get? key)
    (es : List (AnswerKey × Answer)) :
    (addAll answers es).get? key = (addAll answers' (es.filter fun e => e.1 = key)).get? key := by
  induction es generalizing answers answers' with
  | nil => exact h
  | cons e es ih =>
    by_cases he : e.1 = key
    · rw [List.filter_cons_of_pos (by simpa using he)]
      exact ih (by simp [Dict.get?_insert, he])
    · rw [List.filter_cons_of_neg (by simpa using he)]
      exact ih (by rwa [Dict.get?_insert, if_neg he])

/-- Entries that agree for each key make the same answers. -/
theorem addAll_eq_of_filter (h : answers.Ordered) {es es' : List (AnswerKey × Answer)}
    (hes : ∀ key : AnswerKey, es.filter (fun e => e.1 = key) = es'.filter fun e => e.1 = key) :
    addAll answers es = addAll answers es' := by
  refine (addAll_ordered h es).ext (addAll_ordered h es') fun key => ?_
  rw [get?_addAll_filter rfl es, get?_addAll_filter rfl es', hes key]

/-- The entries for a key are those that the proposals for this key add. -/
theorem filter_accepted (settings : TraversalSettings) (g : Graph) (c : Conversation)
    (ps : List Proposal) (key : AnswerKey) :
    (c.accepted settings g ps).filter (fun e => e.1 = key) =
      c.accepted settings g (ps.filter fun p => p.key = key) := by
  unfold accepted
  rw [List.filter_filterMap, List.filterMap_filter]
  congr 1
  funext p
  cases hentry : c.entryFor? settings g p with
  | none => simp
  | some e =>
    have hkey : p.key = e.1 := (entryFor?_eq_some.1 hentry).1
    by_cases he : e.1 = key <;> simp [hkey, he, Option.filter]

end Conversation

/-! ### Answers in order -/

namespace Engine

theorem call_answers_ordered (hc : c.PinnedTo g) (h : c.answers.Ordered) (k : Call) :
    (e.call g c k).conversation.answers.Ordered := by
  rw [call_answers hc]
  exact Conversation.addAll_ordered h _

theorem Reaches.pinnedTo {versions : Set Graph} (h : e.Reaches versions g c) : c.PinnedTo g := by
  induction h with
  | start context _ => exact start_pinnedTo e _ context
  | call k _ ih => exact call_pinnedTo ih k
  | repin _ _ hr _ =>
    obtain ⟨⟨hid, -, -⟩, rfl⟩ := repin_eq_ok.1 hr
    exact ⟨hid, rfl⟩

/-- A conversation keeps its answers in order of their keys. -/
theorem Reaches.answers_ordered {versions : Set Graph} (h : e.Reaches versions g c) :
    c.answers.Ordered := by
  induction h with
  | start context _ =>
    rw [Engine.start, advance_conversation, (walk_follows _ _ _).answers_eq]
    exact .nil
  | call k hreach ih => exact call_answers_ordered hreach.pinnedTo ih k
  | repin _ _ hr ih =>
    obtain ⟨-, rfl⟩ := repin_eq_ok.1 hr
    exact ih

end Engine

/-! ### Turns -/

/-- Two lists hold the same proposals, and those for each key in the same order. -/
structure Proposal.Rearranged (ps qs : List Proposal) : Prop where
  perm : ps.Perm qs
  order : ∀ key : AnswerKey, ps.filter (fun p => p.key = key) = qs.filter fun p => p.key = key

namespace Engine

variable {input input' : TurnInput}

/-- Only the signal of a turn matters before its proposals are looked at. -/
theorem begun_eq_of_path (hpath : input.path = input'.path) :
    e.begun c input = e.begun c input' := by
  rw [begun, begun, hpath]

/-- A turn stores the same answers when its proposals are rearranged. -/
theorem answered_rearranged (hc : c.answers.Ordered) (hpath : input.path = input'.path)
    (h : Proposal.Rearranged input.proposals input'.proposals) :
    e.answered g c input = e.answered g c input' := by
  have hentries : Conversation.addAll c.answers
      ((e.begun c input').accepted e.traversal g input.proposals) =
      Conversation.addAll c.answers ((e.begun c input').accepted e.traversal g input'.proposals) :=
    Conversation.addAll_eq_of_filter hc fun key => by
      rw [Conversation.filter_accepted, Conversation.filter_accepted, h.order key]
  rw [answered, answered, begun_eq_of_path hpath, hentries]

/-- Whether a turn holds the conversation does not depend on the order of its proposals. -/
theorem held_rearranged (hpath : input.path = input'.path)
    (h : Proposal.Rearranged input.proposals input'.proposals) :
    (e.reviewed g c input).held = (e.reviewed g c input').held := by
  rw [reviewed, reviewed, begun_eq_of_path hpath, Conversation.reviewFrom_held,
    Conversation.reviewFrom_held, h.perm.any_eq]

/-- **The order of proposals does not matter.**  Turns with the same signal and the same wish for a
person, whose proposals are the same but for an order that keeps that of the proposals for each key,
leave the same conversation. -/
theorem turn_rearranged {e' : Engine} {versions : Set Graph} (hc : e'.Reaches versions g c)
    (e : Engine) (hpath : input.path = input'.path) (hescalate : input.escalate = input'.escalate)
    (h : Proposal.Rearranged input.proposals input'.proposals) :
    (e.turn g c input).conversation = (e.turn g c input').conversation := by
  have hanswered : e.answered g c input = e.answered g c input' :=
    answered_rearranged hc.answers_ordered hpath h
  have hheld : (e.reviewed g c input).held = (e.reviewed g c input').held := held_rearranged hpath h
  unfold turn
  rw [pinned_eq hc.pinnedTo, pinned_eq hc.pinnedTo]
  split_ifs
  · rw [processTurn_eq, processTurn_eq, ← hanswered, ← hescalate]
    simp only [← hheld]
    -- what is left differs in the review only, which the conversation does not see
    split_ifs <;> rfl
  · rfl

end Engine

namespace Samples

/-- Two answers for one key, and one for another key between them. -/
def nameTurn : TurnInput where
  proposals := [⟨"name", .string "Ada", .ofNat 1⟩, ⟨"budget", .string "ten", .ofNat 1⟩,
    ⟨"name", .string "Grace", .ofNat 1⟩]

/-- The same answers, but the other key comes first. -/
def budgetTurn : TurnInput where
  proposals := [⟨"budget", .string "ten", .ofNat 1⟩, ⟨"name", .string "Ada", .ofNat 1⟩,
    ⟨"name", .string "Grace", .ofNat 1⟩]

theorem nameTurn_rearranged : Proposal.Rearranged nameTurn.proposals budgetTurn.proposals := by
  refine ⟨.swap _ _ _, fun key => ?_⟩
  by_cases hname : key = "name"
  · subst hname
    rfl
  · simp [nameTurn, budgetTurn, List.filter_cons, Ne.symm hname]

/-- Of the two names the later one stays, wherever the answer for the other key comes. -/
theorem leftovers_rearranged :
    let c := (Engine.ofSettings {}).run leftoversGraph [] []
    (Engine.ofSettings {}).Reaches {leftoversGraph} leftoversGraph c ∧
      Proposal.Rearranged nameTurn.proposals budgetTurn.proposals ∧
      ((Engine.ofSettings {}).turn leftoversGraph c nameTurn).conversation =
        ((Engine.ofSettings {}).turn leftoversGraph c budgetTurn).conversation ∧
      (((Engine.ofSettings {}).turn leftoversGraph c nameTurn).conversation.value? "name").bind
        Guard.text? = some "Grace" := by
  have hreach := Engine.reaches_run (e := .ofSettings {}) (Set.mem_singleton leftoversGraph) [] []
  exact ⟨hreach, nameTurn_rearranged, Engine.turn_rearranged hreach (.ofSettings {}) rfl rfl
    nameTurn_rearranged, by decide +kernel⟩

end Samples

end Parley

import Parley.Proofs.Conversation.Ownership

/-!
# Refused answers

A conversation does not get past a node that refuses an answer: a turn with a proposal that the
validator of the current node refuses leaves the conversation where it is, whatever else the turn
brings.  What is stored is what the other proposals of the turn store.

* `Conversation.Refuses`: the current node refuses a proposal;
* `Conversation.Refuses.verdict_eq`, `Conversation.Refuses.held`: what becomes of the proposal, and
  of the turn;
* `Engine.turn_of_refuses`.
-/

namespace Parley

variable {settings : TraversalSettings} {g : Graph} {c : Conversation} {area : Area} {s : Step}
    {v : Validator}
  {p : Proposal} {reason : String}

/-- The current node refuses a proposal: it is for the key of the node and of enough confidence, and
the validator of the node gives a reason against its value. -/
structure Conversation.Refuses (settings : TraversalSettings) (g : Graph) (c : Conversation)
    (area : Area) (s : Step)
    (v : Validator) (p : Proposal) (reason : String) : Prop where
  look : Walker.look g c = .ok (area, s)
  owns : s.node.key = some p.key
  confident : p.confidence.lt settings.minConfidence = false
  validator : s.validator = some v
  refused : v.accept p.value = .error reason

namespace Conversation.Refuses

/-- The current node owns its key, so it decides on the proposal. -/
theorem owner?_eq (hg : g.IsCompiled) (h : c.Refuses settings g area s v p reason) :
    c.owner? g p.key = some (area, s) := by
  obtain ⟨host, f, hg⟩ := hg
  obtain ⟨harea, hs⟩ := Walker.look_eq_ok h.look
  have howner : area.ownerOf? p.key = some s :=
    (Host.compile_ownerOf?_eq_some_iff hg (Graph.area?_mem harea)).2 ⟨Area.step?_mem hs, h.owns⟩
  exact owner?_of_scope harea howner

theorem accept_eq (h : c.Refuses settings g area s v p reason) (value : Json) :
    s.accept value = v.accept value := by
  rw [Step.accept, h.validator]

theorem verdict_eq (hg : g.IsCompiled) (h : c.Refuses settings g area s v p reason) :
    c.verdict settings g p = .rejected area s reason := by
  simp only [verdict, h.confident, Bool.false_eq_true, if_false, h.owner?_eq hg,
    h.accept_eq, h.refused]

/-- A refused proposal adds nothing to the answers. -/
theorem entryFor?_eq (hg : g.IsCompiled) (h : c.Refuses settings g area s v p reason) :
    c.entryFor? settings g p = none := by
  rw [entryFor?, h.verdict_eq hg]
  rfl

theorem accepted_eq (hg : g.IsCompiled) (h : c.Refuses settings g area s v p reason)
    (before after : List Proposal) :
    c.accepted settings g (before ++ p :: after) = c.accepted settings g (before ++ after) := by
  rw [accepted, List.filterMap_append, List.filterMap_cons_none (h.entryFor?_eq hg),
    ← List.filterMap_append, ← accepted]

/-- One refused proposal is enough to hold the conversation. -/
theorem held (hg : g.IsCompiled) (h : c.Refuses settings g area s v p reason) {ps : List Proposal}
    (hp : p ∈ ps) :
    (c.reviewFrom settings g {} ps).held = true := by
  obtain ⟨harea, hs⟩ := Walker.look_eq_ok h.look
  have hstands : c.standsAt area s = true := by
    simp [standsAt, Graph.area?_id harea, Area.step?_id hs]
  have hany : (ps.any fun q => (c.verdict settings g q).holds c) = true :=
    List.any_eq_true.2 ⟨p, hp, by rw [h.verdict_eq hg, Verdict.holds, hstands]⟩
  rw [reviewFrom_held, hany, Bool.or_true]

theorem rejected (hg : g.IsCompiled) (h : c.Refuses settings g area s v p reason)
    {ps : List Proposal} (hp : p ∈ ps) :
    ⟨p.key, s.id, reason⟩ ∈ (c.reviewFrom settings g {} ps).rejected := by
  rw [reviewFrom_rejected]
  refine List.mem_append_right _ (List.mem_filterMap.2 ⟨p, hp, ?_⟩)
  rw [h.verdict_eq hg, Verdict.rejection?]

/-- What is stored for the key of the current node was there before, or its validator has made
it. -/
theorem get?_addAll_accepted (hg : g.IsCompiled) (h : c.Refuses settings g area s v p reason)
    {answers : Dict Answer} {ps : List Proposal} {a : Answer}
    (ha : (addAll answers (c.accepted settings g ps)).get? p.key = some a) :
    answers.get? p.key = some a ∨ ∃ q ∈ ps, q.key = p.key ∧ v.accept q.value = .ok a.value := by
  rcases (get?_addAll ps).1 ha with ⟨q, ⟨before, after, hps, -⟩, hentry⟩ | ⟨hold, -⟩
  · obtain ⟨hkey, -, other, owner, value, howner, haccept, rfl⟩ := entryFor?_eq_some.1 hentry
    rw [hkey, h.owner?_eq hg] at howner
    cases howner
    exact .inr ⟨q, by simp [hps], hkey, (h.accept_eq q.value).symm.trans haccept⟩
  · exact .inl hold

end Conversation.Refuses

namespace Engine

variable {e : Engine} {input : TurnInput}

/-- A turn that is processed stores what its proposals add, whether the conversation goes on or
not. -/
theorem turn_answers (hc : c.PinnedTo g) (hs : c.status = .awaitingInput) (input : TurnInput) :
    (e.turn g c input).conversation.answers =
      Conversation.addAll c.answers ((e.begun c input).accepted e.traversal g input.proposals) := by
  rw [← filterMap_proposedBy hs]
  exact call_answers hc (.turn input)

/-- A turn that is held leaves the conversation where it is; it waits on, unless a person is wished
for. -/
theorem turn_of_held (hc : c.PinnedTo g) (hs : c.status = .awaitingInput)
    (hheld : (e.reviewed g c input).held = true) :
    ∃ o, (e.turn g c input).result = .ok o ∧
      (e.turn g c input).conversation.position = c.position ∧ o.node = c.position.node ∧
      o.scope = c.scope ∧
      o.trail.visited = [] ∧ o.trail.actions = [] ∧
      (e.turn g c input).conversation.status =
        (if input.escalate then .escalated .requested else .awaitingInput) ∧
      o.status = (e.turn g c input).conversation.status ∧ o.review = e.reviewed g c input := by
  rcases turn_cases (e := e) hc input with ⟨c₁, passing, review, decision, hd, -⟩ | hstays
  · cases hd with
    | turn _ _ hfree => cases hheld.symm.trans hfree
  · generalize e.turn g c input = r at hstays ⊢
    cases hstays with
    | idle hidle => exact absurd hs hidle
    | suspended _ hescalate =>
      rw [if_pos hescalate]
      exact ⟨_, rfl, rfl, rfl, rfl, rfl, rfl, rfl, rfl, rfl⟩
    | held _ hescalate _ =>
      rw [if_neg (by simp [hescalate])]
      exact ⟨_, rfl, rfl, rfl, rfl, rfl, rfl, hs, rfl, rfl⟩

/-- The signal of a turn does not change what the current node refuses. -/
theorem refuses_begun (h : c.Refuses settings g area s v p reason) (input : TurnInput) :
    (e.begun c input).Refuses settings g area s v p reason :=
  ⟨h.look, h.owns, h.confident, h.validator, h.refused⟩

/-- **A refused answer holds the conversation.**  A turn with a proposal that the current node
refuses goes to no node and reports no action; the conversation stays where it is and waits on,
unless a person is wished for.  The refusal is reported.  What is stored for the key was there
before or is made by the validator, and all answers are those that the turn would leave without the
proposal. -/
theorem turn_of_refuses (hg : g.IsCompiled) (hc : c.PinnedTo g) (hs : c.status = .awaitingInput)
    (h : c.Refuses e.traversal g area s v p reason) {before after : List Proposal}
    (hinput : input.proposals = before ++ p :: after) :
    ∃ o, (e.turn g c input).result = .ok o ∧
      (e.turn g c input).conversation.position = c.position ∧ o.node = c.position.node ∧
      o.scope = c.scope ∧
      o.trail.visited = [] ∧ o.trail.actions = [] ∧
      (e.turn g c input).conversation.status =
        (if input.escalate then .escalated .requested else .awaitingInput) ∧
      o.status = (e.turn g c input).conversation.status ∧
      ⟨p.key, s.id, reason⟩ ∈ o.review.rejected ∧
      (∀ a, (e.turn g c input).conversation.answers.get? p.key = some a →
        c.answers.get? p.key = some a ∨ ∃ q ∈ input.proposals, q.key = p.key ∧
          v.accept q.value = .ok a.value) ∧
      (e.turn g c input).conversation.answers =
        (e.turn g c { input with proposals := before ++ after }).conversation.answers := by
  have hbegun : (e.begun c input).Refuses e.traversal g area s v p reason := refuses_begun h input
  have hp : p ∈ input.proposals := by simp [hinput]
  obtain ⟨o, hok, hposition, hnode, hscope, hvisited, hactions, hstatus, hreported, hreview⟩ :=
    turn_of_held hc hs (hbegun.held hg hp)
  refine ⟨o, hok, hposition, hnode, hscope, hvisited, hactions, hstatus, hreported, ?_,
    fun a ha => ?_, ?_⟩
  · rw [hreview]
    exact hbegun.rejected hg hp
  · rw [turn_answers hc hs] at ha
    exact hbegun.get?_addAll_accepted hg ha
  · rw [turn_answers hc hs, turn_answers hc hs, hinput, hbegun.accepted_eq hg]
    rfl

end Engine

namespace Samples

/-- A value that is no answer to a question for yes or no. -/
def doubt : Proposal := ⟨"choice", .string "perhaps", .ofNat 1⟩

theorem doubt_refused : Validator.acceptBoolean doubt.value = .error "expected yes or no" := by
  have hword : (Text.trim "perhaps").map Char.toLower = "perhaps" := by decide +kernel
  simp only [doubt, Validator.acceptBoolean, hword]
  rfl

/-- A turn with an answer and with a doubt, and with a signal. -/
def doubtTurn : TurnInput := { proposals := [choice, doubt], path := some "plan" }

/-- The same turn without the doubt. -/
def doubtlessTurn : TurnInput := { doubtTurn with proposals := [choice] }

theorem doubtlessTurn_answers :
    (eager.turn renewalGraph renewalStart doubtlessTurn).conversation.answers =
      [("choice", ⟨.bool true, 1, .ofNat 1⟩)] := by
  have hc : renewalStart.PinnedTo renewalGraph :=
    Engine.run_pinnedTo (.ofSettings {}) renewalGraph [] []
  have haccepts : (eager.begun renewalStart doubtlessTurn).Accepts eager.traversal
      renewalGraph choice
      ⟨.bool true, 1, .ofNat 1⟩ :=
    ⟨by decide +kernel, _, renew, _, Conversation.owner?_of_scope rfl rfl, rfl, rfl⟩
  have haccepted : (eager.begun renewalStart doubtlessTurn).accepted eager.traversal renewalGraph
      doubtlessTurn.proposals = [("choice", ⟨.bool true, 1, .ofNat 1⟩)] :=
    List.filterMap_cons_some (Conversation.entryFor?_eq_some.2 ⟨rfl, haccepts⟩)
  have hnone : renewalStart.answers = [] :=
    Engine.run_answers_eq (.ofSettings {}) renewalGraph [] []
  rw [Engine.turn_answers hc rfl, hnone, haccepted]
  rfl

/-- A doubt holds the conversation at the question, though the question has an answer now. -/
theorem renew_refuses :
    renewalGraph.IsCompiled ∧ renewalStart.PinnedTo renewalGraph ∧
      renewalStart.status = .awaitingInput ∧
      (∃ area, renewalStart.Refuses eager.traversal renewalGraph area renew
        ⟨"boolean", Validator.acceptBoolean⟩ doubt "expected yes or no") ∧
      ∃ o, (eager.turn renewalGraph renewalStart doubtTurn).result = .ok o ∧ o.node = "renew" ∧
        o.trail.visited = [] ∧
        ⟨"choice", "renew", "expected yes or no"⟩ ∈ o.review.rejected ∧
        (eager.turn renewalGraph renewalStart doubtTurn).conversation.status = .awaitingInput ∧
        (eager.turn renewalGraph renewalStart doubtTurn).conversation.answers =
          [("choice", ⟨.bool true, 1, .ofNat 1⟩)] := by
  have hg : renewalGraph.IsCompiled := ⟨_, _, compile_renewal⟩
  have hc : renewalStart.PinnedTo renewalGraph :=
    Engine.run_pinnedTo (.ofSettings {}) renewalGraph [] []
  have hrefuses : renewalStart.Refuses eager.traversal renewalGraph _ renew
      ⟨"boolean", Validator.acceptBoolean⟩ doubt
      "expected yes or no" := ⟨rfl, rfl, by decide +kernel, rfl, doubt_refused⟩
  have hsplit : doubtTurn.proposals = [choice] ++ doubt :: [] := rfl
  obtain ⟨o, hok, -, hnode, -, hvisited, -, hstatus, -, hrejected, -, hanswers⟩ :=
    Engine.turn_of_refuses hg hc rfl hrefuses hsplit
  have hwithout : ⟨[choice] ++ [], doubtTurn.path, doubtTurn.escalate⟩ = doubtlessTurn := rfl
  rw [hwithout, doubtlessTurn_answers] at hanswers
  exact ⟨hg, hc, rfl, ⟨_, hrefuses⟩, o, hok, hnode, hvisited, hrejected,
    hstatus.trans (if_neg Bool.false_ne_true), hanswers⟩

end Samples

end Parley

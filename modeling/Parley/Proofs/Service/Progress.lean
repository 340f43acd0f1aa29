import Parley.Proofs.Conversation.Suspension
import Parley.Proofs.Conversation.Votes
import Parley.Service.Basic

/-!
# How a conversation goes on

What an operation that succeeds makes of the turn, the status and the path of a conversation, and
what its outcome says of them.

* `Operation.Moves`: all that an operation can do to them;
* `Outcome.Tells`: an outcome that says how a conversation stands;
* `Engine.call_moves`, `Engine.repin_moves`.
-/

namespace Parley

/-- The call as an operation of the service. -/
def Call.operation : Call → Operation
  | .turn input => .turn input
  | .resume target => .resume target
  | .overridePath path => .overridePath path

/-- Only a turn that is awaited counts, what has ended stays as it is, and the path is chosen by the
signal of a turn or by an override. -/
structure Operation.Moves (policy : PolicySettings Binary64) (operation : Operation)
    (c c' : Conversation) : Prop where
  turn : c'.turn = c.turn ∨
    (∃ input, operation = .turn input) ∧ c.status = .awaitingInput ∧ c'.turn = c.turn + 1
  ended : c.status.isTerminal = true → c'.status = c.status
  path : c'.path = c.path ∨
    (∃ input, operation = .turn input ∧ c'.path = (policy.observe c.path input.path).1) ∨
    ∃ path, operation = .overridePath path ∧ c'.path = (PolicySettings.override c.path path).1

/-- A lock is never taken away. -/
theorem Operation.Moves.isLocked {policy : PolicySettings Binary64} {operation : Operation}
    {c c' : Conversation} (h : operation.Moves policy c c') (hc : c.path.isLocked = true) :
    c'.path.isLocked = true := by
  rcases h.path with hpath | ⟨input, -, hpath⟩ | ⟨path, -, hpath⟩
  · rwa [hpath]
  · rwa [hpath, policy.observe_of_isLocked hc]
  · rw [hpath]
    rfl

/-- An ended conversation is not changed by a turn. -/
theorem Operation.Moves.turn_of_ended {policy : PolicySettings Binary64} {operation : Operation}
    {c c' : Conversation} (h : operation.Moves policy c c') (hc : c.status.isTerminal = true) :
    c'.turn = c.turn := by
  rcases h.turn with hturn | ⟨-, hawaiting, -⟩
  · exact hturn
  · rw [hawaiting] at hc
    cases hc

/-- An outcome says how a conversation stands. -/
structure Outcome.Tells (o : Outcome) (c : Conversation) : Prop where
  turn : o.turn = c.turn
  status : o.status = c.status
  node : o.node = c.position.node

namespace Engine

variable {e : Engine} {g : Graph} {c c' : Conversation} {k : Call} {o : Outcome}

/-! ### Outcomes -/

theorem outcome_tells (g : Graph) (c : Conversation) (review : Review) (trail : Trail)
    (path : PathDecision) :
    (outcome g c review trail path).Tells c := ⟨rfl, rfl, rfl⟩

theorem advance_tells {passing : Bool} {review : Review} {path : PathDecision}
    (h : (e.advance g c passing review path).result = .ok o) :
    o.Tells (e.advance g c passing review path).conversation := by
  unfold advance at h ⊢
  generalize walk g e.traversal.maxAutoSteps ⟨c, {}, passing⟩ = walked at h ⊢
  obtain ⟨w, fault⟩ := walked
  cases fault with
  | some fault => cases h
  | none =>
    cases h
    exact outcome_tells g _ _ _ _

/-- A call succeeds only with the graph that the conversation is pinned to. -/
theorem pinnedTo_of_ok (h : (e.call g c k).result = .ok o) : c.PinnedTo g := by
  by_contra hnot
  rw [call_of_not_pinnedTo hnot] at h
  cases h

/-- The outcome of an override that does not make a conversation go on. -/
theorem overridePath_result {path : PathId} (hc : c.PinnedTo g) (hs : c.status ≠ .awaitingInput)
    (hoffered : (g.pathScopes path).isEmpty = false) :
    (e.overridePath g c path).result =
      .ok (outcome g { c with path := (PolicySettings.override c.path path).1 } {} {}
        (.locked path)) := by
  simp only [overridePath, pinned_eq hc, hoffered, Bool.false_eq_true, if_false,
    PolicySettings.override, hs]

/-- A call that succeeds tells how the conversation stands. -/
theorem call_tells (h : (e.call g c k).result = .ok o) : o.Tells (e.call g c k).conversation := by
  have hpinned := pinnedTo_of_ok h
  rcases call_cases hpinned k with ⟨c₁, passing, review, decision, -, hr⟩ | hstays
  · rw [hr] at h ⊢
    exact advance_tells h
  · generalize hr : e.call g c k = r at h hstays ⊢
    cases hstays with
    | idle | suspended | held =>
      cases h
      exact outcome_tells g _ _ _ _
    | overridden hs hoffered =>
      have hresult := overridePath_result (e := e) hpinned hs hoffered
      rw [show e.overridePath g c _ = _ from hr] at hresult
      cases h.symm.trans hresult
      exact outcome_tells g _ _ _ _
    | notEscalated | missingScope | notInScope | notOffered => cases h

/-! ### Operations -/

/-- **All that a call that succeeds changes.** -/
theorem call_moves (h : (e.call g c k).result = .ok o) :
    k.operation.Moves e.policy c (e.call g c k).conversation := by
  rcases call_cases (pinnedTo_of_ok h) k with ⟨c₁, passing, review, decision, hd, hr⟩ | hstays
  · -- a walk changes neither turn nor path, and does not set out from an end
    rw [hr, advance_conversation]
    have hfollows := walk_follows g e.traversal.maxAutoSteps ⟨c₁, {}, passing⟩
    have hstatus : c.status.isTerminal = false := by
      cases hd with
      | turn hs | resumeAt hs | resume hs | overridePath hs => rw [hs]; rfl
    refine ⟨?_, fun hended => ?_, ?_⟩
    · rw [hfollows.turn_eq]
      cases hd with
      | turn hs => exact .inr ⟨⟨_, rfl⟩, hs, rfl⟩
      | resumeAt | resume | overridePath => exact .inl rfl
    · rw [hstatus] at hended
      cases hended
    · rw [hfollows.path_eq]
      cases hd with
      | turn => exact .inr (.inl ⟨_, rfl, rfl⟩)
      | resumeAt | resume => exact .inl rfl
      | overridePath => exact .inr (.inr ⟨_, rfl, rfl⟩)
  · generalize e.call g c k = r at h hstays
    cases hstays with
    | idle => exact ⟨.inl rfl, fun _ => rfl, .inl rfl⟩
    | suspended hs | held hs =>
      refine ⟨.inr ⟨⟨_, rfl⟩, hs, rfl⟩, fun hended => ?_, .inr (.inl ⟨_, rfl, rfl⟩)⟩
      rw [hs] at hended
      cases hended
    | overridden => exact ⟨.inl rfl, fun _ => rfl, .inr (.inr ⟨_, rfl, rfl⟩)⟩
    | notEscalated | missingScope | notInScope | notOffered => cases h

/-- A move to another version changes nothing of this. -/
theorem repin_moves (policy : PolicySettings Binary64) {next : Graph} (h : repin next c = .ok c')
    (version : Option Version) : (Operation.repin version).Moves policy c c' := by
  obtain ⟨-, rfl⟩ := repin_eq_ok.1 h
  exact ⟨.inl rfl, fun _ => rfl, .inl rfl⟩

/-- A new conversation has had no turn and no path. -/
theorem start_eq (e : Engine) (g : Graph) (context : Dict Json) :
    (e.start g context).conversation.turn = 0 ∧ (e.start g context).conversation.path = {} := by
  have hfollows := walk_follows g e.traversal.maxAutoSteps
    ⟨opened g ((g.area? .root).elim "" Area.entry) context, {}, false⟩
  exact ⟨hfollows.turn_eq, hfollows.path_eq⟩

end Engine

end Parley

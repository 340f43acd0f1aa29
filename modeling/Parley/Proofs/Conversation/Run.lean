import Parley.Proofs.Conversation.Review
import Parley.Proofs.Conversation.Walk

/-!
# Runs of a conversation

A run opens a conversation and makes calls on it.  A call either walks or leaves the conversation
where it is.

* `Call`, `Engine.call`, `Engine.after`, `Engine.run`: calls on one version;
* `Engine.Reaches`: calls and moves to newer versions; `Graph.Reaches`: calls under changing
  settings;
* `Engine.Departs`, `Engine.Stays`, `Engine.call_cases`: all that a call can do.
-/

namespace Parley

/-- A conversation is pinned to a graph. -/
structure Conversation.PinnedTo (c : Conversation) (g : Graph) : Prop where
  flow : g.id = c.flow
  version : g.version = c.version

/-- What can be asked of a conversation on its version. -/
inductive Call
  | turn (input : TurnInput)
  | resume (target : Option NodeId)
  | overridePath (path : PathId)

namespace Engine

/-- Make a call on a conversation. -/
def call (e : Engine) (g : Graph) (c : Conversation) : Call → Reply
  | .turn input => e.turn g c input
  | .resume target => e.resume g c target
  | .overridePath path => e.overridePath g c path

/-- The conversation after calls one after the other. -/
def after (e : Engine) (g : Graph) (c : Conversation) (calls : List Call) : Conversation :=
  calls.foldl (fun c call => (e.call g c call).conversation) c

/-- The conversation after it was opened and calls were made on it. -/
def run (e : Engine) (g : Graph) (context : Dict Json) (calls : List Call) : Conversation :=
  e.after g (e.start g context).conversation calls

/-- The conversations that calls and moves to newer versions lead to, each with the version that it
has been moved to last. -/
inductive Reaches (e : Engine) (versions : Set Graph) : Graph → Conversation → Prop
  | start {g : Graph} (context : Dict Json) : g ∈ versions →
      Reaches e versions g (e.start g context).conversation
  | call {g : Graph} {c : Conversation} (call : Call) : Reaches e versions g c →
      Reaches e versions g (e.call g c call).conversation
  | repin {g next : Graph} {c c' : Conversation} : Reaches e versions g c → next ∈ versions →
      Engine.repin next c = .ok c' → Reaches e versions next c'

end Engine

/-- The conversations that calls on one version lead to, under whatever settings each of them is
made. -/
inductive Graph.Reaches (g : Graph) : Conversation → Prop
  | start (e : Engine) (context : Dict Json) : g.Reaches (e.start g context).conversation
  | call {c : Conversation} (e : Engine) (call : Call) :
      g.Reaches c → g.Reaches (e.call g c call).conversation

namespace Engine

variable {e : Engine} {g : Graph} {c : Conversation}

/-- What opening a conversation establishes and calls keep holds after every run. -/
theorem run_induction {P : Conversation → Prop} (context : Dict Json)
    (hstart : P (e.start g context).conversation)
    (hcall : ∀ c call, P c → P (e.call g c call).conversation) (calls : List Call) :
    P (e.run g context calls) := by
  unfold run
  generalize (e.start g context).conversation = c at hstart ⊢
  induction calls generalizing c with
  | nil => exact hstart
  | cons call calls ih => exact ih _ (hcall c call hstart)

theorem run_concat (e : Engine) (g : Graph) (context : Dict Json) (calls : List Call) (k : Call) :
    e.run g context (calls ++ [k]) = (e.call g (e.run g context calls) k).conversation := by
  rw [run, after, List.foldl_append]
  rfl

/-- The version that a conversation is pinned to is one of those that it may move to. -/
theorem Reaches.mem {versions : Set Graph} (h : e.Reaches versions g c) : g ∈ versions := by
  induction h with
  | start _ hg => exact hg
  | call _ _ ih => exact ih
  | repin _ hnext _ _ => exact hnext

/-- A run on one version is a run. -/
theorem reaches_run {versions : Set Graph} (hg : g ∈ versions) (context : Dict Json)
    (calls : List Call) :
    e.Reaches versions g (e.run g context calls) :=
  run_induction context (.start context hg) (fun _ call h => .call call h) calls

/-! ### Turns -/

/-- The conversation as a turn finds it: the turn is counted and its signal taken in. -/
def begun (e : Engine) (c : Conversation) (input : TurnInput) : Conversation :=
  { c with turn := c.turn + 1, path := (e.policy.observe c.path input.path).1 }

/-- The conversation with the answers of a turn. -/
def answered (e : Engine) (g : Graph) (c : Conversation) (input : TurnInput) : Conversation :=
  { e.begun c input with
    answers :=
        Conversation.addAll c.answers ((e.begun c input).accepted e.traversal g input.proposals) }

/-- The review of a turn. -/
def reviewed (e : Engine) (g : Graph) (c : Conversation) (input : TurnInput) : Review :=
  (e.begun c input).reviewFrom e.traversal g {} input.proposals

theorem processTurn_eq (e : Engine) (g : Graph) (c : Conversation) (input : TurnInput) :
    e.processTurn g c input =
      let decision := (e.policy.observe c.path input.path).2
      let review := e.reviewed g c input
      let suspended : Conversation := { e.answered g c input with status := .escalated .requested }
      if input.escalate then ⟨suspended, .ok (outcome g suspended review {} decision)⟩
      else if review.held then
        ⟨e.answered g c input, .ok (outcome g (e.answered g c input) review {} decision)⟩
      else e.advance g (e.answered g c input) false review decision := by
  unfold processTurn
  simp only [Conversation.commitAll_eq]
  rfl

theorem pinned_eq (h : c.PinnedTo g) (r : Reply) : pinned g c r = r := by
  unfold pinned checkPinned
  rw [if_pos ⟨h.flow, h.version⟩]

/-! ### What a call does -/

theorem advance_conversation (c : Conversation) (passing : Bool) (review : Review)
    (path : PathDecision) :
    (e.advance g c passing review path).conversation =
      (walk g e.traversal.maxAutoSteps ⟨c, {}, passing⟩).1.conversation := rfl

/-- A walk without a fault has an outcome. -/
theorem advance_result {passing : Bool} {review : Review} {path : PathDecision}
    (h : (walk g e.traversal.maxAutoSteps ⟨c, {}, passing⟩).2 = none) :
    (e.advance g c passing review path).result =
      .ok (outcome g (walk g e.traversal.maxAutoSteps ⟨c, {}, passing⟩).1.conversation review
        (walk g e.traversal.maxAutoSteps ⟨c, {}, passing⟩).1.trail path) := by
  unfold advance
  simp only [h]

/-- A call goes on with a walk: from this conversation, perhaps past its node, and with this
review. -/
inductive Departs (e : Engine) (g : Graph) (c : Conversation) :
    Call → Conversation → Bool → Review → Prop
  | turn {input : TurnInput} : c.status = .awaitingInput → input.escalate = false →
      (e.reviewed g c input).held = false →
      Departs e g c (.turn input) (e.answered g c input) false (e.reviewed g c input)
  | resumeAt {reason : EscalationReason} {id : NodeId} {area : Area} :
      c.status = .escalated reason →
      g.area? c.scope = some area → area.contains id = true →
      Departs e g c (.resume (some id))
        { c with status := .awaitingInput, position := { c.position with node := id } } false {}
  | resume {reason : EscalationReason} : c.status = .escalated reason →
      Departs e g c (.resume none) { c with status := .awaitingInput } (isPlanned reason) {}
  | overridePath {path : PathId} : c.status = .awaitingInput → (g.pathScopes path).isEmpty = false →
      Departs e g c (.overridePath path) { c with path := (PolicySettings.override c.path path).1 }
        false {}

/-- A call does not walk and gives a reply at once. -/
inductive Stays (e : Engine) (g : Graph) (c : Conversation) : Call → Reply → Prop
  | idle {input : TurnInput} : c.status ≠ .awaitingInput →
      Stays e g c (.turn input) ⟨c, .ok (position g c)⟩
  | suspended {input : TurnInput} {decision : PathDecision} : c.status = .awaitingInput →
      input.escalate = true →
      Stays e g c (.turn input)
        ⟨{ e.answered g c input with status := .escalated .requested },
          .ok (outcome g { e.answered g c input with status := .escalated .requested }
            (e.reviewed g c input) {} decision)⟩
  | held {input : TurnInput} {decision : PathDecision} : c.status = .awaitingInput →
      input.escalate = false → (e.reviewed g c input).held = true →
      Stays e g c (.turn input)
        ⟨e.answered g c input,
          .ok (outcome g (e.answered g c input) (e.reviewed g c input) {} decision)⟩
  | notEscalated {target : Option NodeId} : (∀ reason, c.status ≠ .escalated reason) →
      Stays e g c (.resume target) ⟨c, .error .notEscalated⟩
  | missingScope {reason : EscalationReason} {id : NodeId} : c.status = .escalated reason →
      g.area? c.scope = none → Stays e g c (.resume (some id)) ⟨c, .error (.missingScope c.scope)⟩
  | notInScope {reason : EscalationReason} {id : NodeId} {area : Area} :
      c.status = .escalated reason →
      g.area? c.scope = some area → area.contains id = false →
      Stays e g c (.resume (some id)) ⟨c, .error (.notInScope id c.scope)⟩
  | notOffered {path : PathId} : (g.pathScopes path).isEmpty = true →
      Stays e g c (.overridePath path) ⟨c, .error (.pathNotOffered path g.id)⟩
  | overridden {path : PathId} {o : Outcome} : c.status ≠ .awaitingInput →
      (g.pathScopes path).isEmpty = false →
      Stays e g c (.overridePath path)
        ⟨{ c with path := (PolicySettings.override c.path path).1 }, .ok o⟩

/-- A reply comes from a walk that the call goes on with. -/
def Walks (e : Engine) (g : Graph) (c : Conversation) (k : Call) (r : Reply) : Prop :=
  ∃ c₁ passing review decision, e.Departs g c k c₁ passing review ∧
    r = e.advance g c₁ passing review decision

theorem turn_cases (h : c.PinnedTo g) (input : TurnInput) :
    e.Walks g c (.turn input) (e.turn g c input) ∨
    e.Stays g c (.turn input) (e.turn g c input) := by
  unfold turn
  rw [pinned_eq h]
  by_cases hs : c.status = .awaitingInput
  · rw [if_pos hs, processTurn_eq]
    cases hescalate : input.escalate with
    | true => exact .inr (.suspended hs hescalate)
    | false =>
      cases hheld : (e.reviewed g c input).held with
      | true =>
        simp only [hheld, Bool.false_eq_true, if_false, if_true]
        exact .inr (.held hs hescalate hheld)
      | false =>
        simp only [hheld, Bool.false_eq_true, if_false]
        exact .inl ⟨_, _, _, _, .turn hs hescalate hheld, rfl⟩
  · rw [if_neg hs]
    exact .inr (.idle hs)

theorem resume_cases (h : c.PinnedTo g) (target : Option NodeId) :
    e.Walks g c (.resume target) (e.resume g c target) ∨
      e.Stays g c (.resume target) (e.resume g c target) := by
  unfold resume
  rw [pinned_eq h]
  cases hs : c.status with
  | awaitingInput => exact .inr (.notEscalated (by simp [hs]))
  | terminal node => exact .inr (.notEscalated (by simp [hs]))
  | escalated reason =>
    cases target with
    | none => exact .inl ⟨_, _, _, _, .resume hs, rfl⟩
    | some id =>
      simp only [resumeAt]
      cases ha : g.area? c.scope with
      | none => exact .inr (.missingScope hs ha)
      | some area =>
        cases hc : area.contains id with
        | true =>
          simp only [hc, if_true]
          exact .inl ⟨_, _, _, _, .resumeAt hs ha hc, rfl⟩
        | false =>
          simp only [hc, Bool.false_eq_true, if_false]
          exact .inr (.notInScope hs ha hc)

theorem overridePath_cases (h : c.PinnedTo g) (path : PathId) :
    e.Walks g c (.overridePath path) (e.overridePath g c path) ∨
      e.Stays g c (.overridePath path) (e.overridePath g c path) := by
  unfold overridePath
  rw [pinned_eq h]
  cases hoffered : (g.pathScopes path).isEmpty with
  | true => exact .inr (.notOffered hoffered)
  | false =>
    by_cases hs : c.status = .awaitingInput
    · refine .inl ⟨_, _, _, .locked path, .overridePath hs hoffered, ?_⟩
      simp [PolicySettings.override, hs]
    · refine .inr ?_
      simp only [PolicySettings.override, hs, Bool.false_eq_true, if_false]
      exact .overridden hs hoffered

/-- **A call on a pinned conversation either walks or stays.** -/
theorem call_cases (h : c.PinnedTo g) (k : Call) :
    e.Walks g c k (e.call g c k) ∨ e.Stays g c k (e.call g c k) := by
  cases k with
  | turn input => exact turn_cases h input
  | resume target => exact resume_cases h target
  | overridePath path => exact overridePath_cases h path

theorem Departs.pinnedTo {k : Call} {c₁ : Conversation} {passing : Bool} {review : Review}
    (h : e.Departs g c k c₁ passing review) (hc : c.PinnedTo g) : c₁.PinnedTo g := by
  cases h <;> exact ⟨hc.flow, hc.version⟩

theorem Stays.pinnedTo {k : Call} {r : Reply} (h : e.Stays g c k r) (hc : c.PinnedTo g) :
    r.conversation.PinnedTo g := by
  cases h <;> exact ⟨hc.flow, hc.version⟩

theorem advance_pinnedTo (hc : c.PinnedTo g) (passing : Bool) (review : Review)
    (path : PathDecision) :
    (e.advance g c passing review path).conversation.PinnedTo g := by
  have hfollows := walk_follows g e.traversal.maxAutoSteps ⟨c, {}, passing⟩
  exact ⟨hc.flow.trans hfollows.flow_eq.symm, hc.version.trans hfollows.version_eq.symm⟩

theorem call_pinnedTo (hc : c.PinnedTo g) (k : Call) : (e.call g c k).conversation.PinnedTo g := by
  rcases call_cases hc k with ⟨c₁, passing, review, decision, hd, hr⟩ | hstays
  · rw [hr]
    exact advance_pinnedTo (hd.pinnedTo hc) passing review decision
  · exact hstays.pinnedTo hc

theorem start_pinnedTo (e : Engine) (g : Graph) (context : Dict Json) :
    (e.start g context).conversation.PinnedTo g :=
  advance_pinnedTo ⟨rfl, rfl⟩ false {} .noSignal

theorem run_pinnedTo (e : Engine) (g : Graph) (context : Dict Json) (calls : List Call) :
    (e.run g context calls).PinnedTo g :=
  run_induction (P := fun c => c.PinnedTo g) context (e.start_pinnedTo g context)
    (fun _ k hc => call_pinnedTo hc k)
    calls

end Engine

end Parley

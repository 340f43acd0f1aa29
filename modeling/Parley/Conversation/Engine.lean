import Parley.Conversation.Review
import Parley.Conversation.Walk

/-!
# Operations on conversations

Every operation takes a conversation and the graph of its version, and gives a `Reply`: the
conversation as it is afterwards, with an outcome or the reason why there is none.

* `Engine.start`, `Engine.turn`, `Engine.resume`, `Engine.overridePath`;
* `Engine.position`: where a conversation stands;
* `Engine.repin`: moving a conversation to a newer version of its flow.
-/

namespace Parley

/-- What an operation leaves behind. -/
structure Reply where
  conversation : Conversation
  result : Except ConversationFault Outcome

/-- The settings that conversations are held under. -/
structure Engine where
  traversal : TraversalSettings
  policy : PolicySettings Binary64

namespace Engine

def ofSettings (s : Settings) : Engine := ⟨s.traversal, s.pathPolicy⟩

/-- The prompt of the current node. -/
def prompt? (g : Graph) (c : Conversation) : Option String := do
  let area ← g.area? c.scope
  (← area.step? c.position.node).node.prompt

/-- The outcome of a turn for a conversation as it is now. -/
def outcome (g : Graph) (c : Conversation) (review : Review) (trail : Trail) (path : PathDecision) :
    Outcome :=
  ⟨c.turn, c.status, c.position.node, c.scope, prompt? g c, review, trail, path⟩

/-- Go on from where a conversation stands. -/
def advance (e : Engine) (g : Graph) (c : Conversation) (passing : Bool) (review : Review)
    (path : PathDecision) : Reply :=
  let (w, fault) := walk g e.traversal.maxAutoSteps ⟨c, {}, passing⟩
  ⟨w.conversation, match fault with
    | some fault => .error fault
    | none => .ok (outcome g w.conversation review w.trail path)⟩

/-- Where a conversation stands. -/
def position (g : Graph) (c : Conversation) : Outcome :=
  outcome g c {} {} (c.path.locked?.elim .noSignal .locked)

/-- A new conversation at the entry of a graph. -/
def opened (g : Graph) (entry : NodeId) (context : Dict Json) : Conversation :=
  { flow := g.id, version := g.version, position := ⟨entry, []⟩, context }

/-- Open a conversation. -/
def start (e : Engine) (g : Graph) (context : Dict Json) : Reply :=
  let entry := (g.area? .root).elim "" Area.entry
  e.advance g (opened g entry context) false {} .noSignal

/-- Refuse a graph other than the one that a conversation is pinned to. -/
def checkPinned (g : Graph) (c : Conversation) : Except ConversationFault Unit :=
  if g.id = c.flow ∧ g.version = c.version then .ok ()
  else .error (.otherGraph c.flow c.version g.id g.version)

/-- Run an operation with the graph that a conversation is pinned to. -/
def pinned (g : Graph) (c : Conversation) (operation : Reply) : Reply :=
  match checkPinned g c with
  | .error fault => ⟨c, .error fault⟩
  | .ok () => operation

/-- Process a turn while input is awaited. -/
def processTurn (e : Engine) (g : Graph) (c : Conversation) (input : TurnInput) : Reply :=
  let (path, decision) := e.policy.observe c.path input.path
  let (c, review) := ({ c with turn := c.turn + 1, path := path }).commitAll e.traversal g
    input.proposals
  if input.escalate then
    let c : Conversation := { c with status := .escalated .requested }
    ⟨c, .ok (outcome g c review {} decision)⟩
  else if review.held then ⟨c, .ok (outcome g c review {} decision)⟩
  else e.advance g c false review decision

/-- Process a turn.  A conversation that does not await input is left as it is. -/
def turn (e : Engine) (g : Graph) (c : Conversation) (input : TurnInput) : Reply :=
  pinned g c <|
    if c.status = .awaitingInput then e.processTurn g c input else ⟨c, .ok (position g c)⟩

/-- Go on after an escalation at a node of the current scope. -/
def resumeAt (e : Engine) (g : Graph) (c : Conversation) (target : NodeId) : Reply :=
  match g.area? c.scope with
  | none => ⟨c, .error (.missingScope c.scope)⟩
  | some area =>
      if area.contains target then
        e.advance g
          { c with status := .awaitingInput, position := { c.position with node := target } }
          false {} .noSignal
      else ⟨c, .error (.notInScope target c.scope)⟩

/-- Whether an escalation was meant by the flow. -/
def isPlanned : EscalationReason → Bool
  | .node _ => true
  | _ => false

/-- Go on after an escalation: at a given node, or else past the escalation node, or else by trying
the current node again. -/
def resume (e : Engine) (g : Graph) (c : Conversation) (target : Option NodeId) : Reply :=
  pinned g c <|
    match c.status with
    | .escalated reason =>
        match target with
        | some target => e.resumeAt g c target
        | none => e.advance g { c with status := .awaitingInput } (isPlanned reason) {} .noSignal
    | _ => ⟨c, .error .notEscalated⟩

/-- Lock a path that some fork offers, and enter it if a fork waits for it. -/
def overridePath (e : Engine) (g : Graph) (c : Conversation) (path : PathId) : Reply :=
  pinned g c <|
    if (g.pathScopes path).isEmpty then ⟨c, .error (.pathNotOffered path g.id)⟩
    else
      let (state, decision) := PolicySettings.override c.path path
      let c := { c with path := state }
      if c.status = .awaitingInput then e.advance g c false {} decision
      else ⟨c, .ok (outcome g c {} {} decision)⟩

/-- Refuse frames, outermost first, that are not found below a scope. -/
def checkFrames (next : Graph) : ScopeId → List Frame → Except ConversationFault Unit
  | _, [] => .ok ()
  | parent, f :: r =>
      if (next.area? parent).any (·.contains f.caller) && (next.area? f.scope).isSome then
        checkFrames next f.scope r
      else .error (.subgraphGone f.scope f.caller next.version)

/-- Refuse a graph to which a conversation cannot be moved. -/
def checkRepin (next : Graph) (c : Conversation) : Except ConversationFault Unit := do
  if next.id ≠ c.flow then throw (.otherFlow c.flow next.id)
  if next.version ≤ c.version then throw (.notNewer next.version c.version)
  checkFrames next .root c.position.stack.reverse
  if (next.area? c.scope).any (·.contains c.position.node) then pure ()
  else throw (.nodeGone c.position.node next.version)

/-- Move a conversation to a newer version of its flow. -/
def repin (next : Graph) (c : Conversation) : Except ConversationFault Conversation := do
  checkRepin next c
  pure { c with version := next.version }

end Engine

end Parley

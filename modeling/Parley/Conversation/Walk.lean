import Parley.Conversation.Fault
import Parley.Conversation.Turn
import Parley.Graph.Basic

/-!
# Walking through a graph

A conversation goes on by itself until it needs input, ends or is handed to a person.  Each step
looks at the current node, decides on a `Move` and makes it; the number of steps is bounded.

* `Area.choose`: the link that is taken from a node;
* `Move`, `Walker.decide`: what happens at a node;
* `Walker.step`, `walk`.
-/

namespace Parley

/-- What guards can read of a conversation. -/
def Conversation.environment (c : Conversation) : Guard.Environment := ⟨c.value?, c.context.get?⟩

/-- Whether a guard holds; one that cannot be evaluated does not. -/
def holds (x : Except Guard.Error Bool) : Bool :=
  match x with
  | .ok b => b
  | .error _ => false

/-- Whether a node may be run. -/
def Step.isEligible (s : Step) (registry : Guard.Registry) (env : Guard.Environment) : Bool :=
  match s.eligibility with
  | none => true
  | some e => holds (e.eval registry env)

/-- The link that is taken from a node: the first one whose guard holds, or else the fallback. -/
def Area.choose (a : Area) (id : NodeId) (registry : Guard.Registry) (env : Guard.Environment) :
    Option Link :=
  let links := a.outgoing id
  (links.find? fun l => holds (l.guard.eval registry env)).or
    (links.find? fun l => l.guard.isOtherwise)

/-- What happens at a node. -/
inductive Move
  | wait
  | goto (node : NodeId)
  | enter (scope : ScopeId)
  | leave
  | finish
  | escalate
  | deadEnd
  deriving DecidableEq

/-- The move that a link means. -/
def Move.ofLink : Option Link → Move
  | some l =>
      match l.target with
      | .node id => .goto id
      | .exit => .leave
  | none => .deadEnd

/-- The move into a fixed subgraph, or into the one for the locked path. -/
def Move.intoSubgraph (s : Step) (locked : Option PathId) : Move :=
  match s.subgraph with
  | some scope => .enter scope
  | none =>
      match locked with
      | none => .wait
      | some path => (s.pathScope? path).elim .deadEnd .enter

/-- A conversation on its way.  `passing` says that the current node has been run already. -/
structure Walker where
  conversation : Conversation
  trail : Trail := {}
  passing : Bool := false

namespace Walker

/-- The scope and the node at which a conversation stands. -/
def look (g : Graph) (c : Conversation) : Except ConversationFault (Area × Step) :=
  match g.area? c.scope with
  | none => .error (.missingScope c.scope)
  | some area =>
      match area.step? c.position.node with
      | none => .error (.missingNode c.position.node area.id)
      | some s => .ok (area, s)

/-- What an eligible node does. -/
def run (c : Conversation) (s : Step) (onward : Move) : Move :=
  match s.node.kind with
  | .question =>
      if s.node.key.any fun key => Dict.contains c.answers key then onward else .wait
  | .decision => onward
  | .action => onward
  | .subgraphRef => .intoSubgraph s c.path.locked?
  | .terminal => .finish
  | .escalation => .escalate

/-- What happens at the current node. -/
def decide (g : Graph) (w : Walker) (area : Area) (s : Step) : Move :=
  let env := w.conversation.environment
  let onward := Move.ofLink (area.choose s.id g.predicates env)
  if w.passing then onward
  else if s.isEligible g.predicates env then run w.conversation s onward
  else onward

/-- Note that a node is looked at, and that it is run if it is an action. -/
def note (g : Graph) (w : Walker) (s : Step) : Walker :=
  if w.passing then { w with passing := false }
  else
    let isRun := s.node.kind = .action && s.isEligible g.predicates w.conversation.environment
    { w with trail := ⟨w.trail.visited ++ [s.id], w.trail.actions ++ if isRun then [s.id] else []⟩ }

/-- How a step ends. -/
inductive Progress
  | moved (w : Walker)
  | rested (w : Walker)
  | failed (fault : ConversationFault) (w : Walker)

/-- The walker with another status. -/
def setStatus (w : Walker) (status : Status) : Walker :=
  { w with conversation := { w.conversation with status := status } }

/-- The walker at another position. -/
def setPosition (w : Walker) (position : Position) : Walker :=
  { w with conversation := { w.conversation with position := position } }

/-- Make a move. -/
def make (g : Graph) (w : Walker) : Move → Progress
  | .wait => .rested (w.setStatus .awaitingInput)
  | .goto id => .moved (w.setPosition { w.conversation.position with node := id })
  | .enter scope =>
      match g.area? scope with
      | none => .failed (.missingScope scope) w
      | some area =>
          let p := w.conversation.position
          .moved (w.setPosition ⟨area.entry, ⟨scope, p.node⟩ :: p.stack⟩)
  | .leave =>
      match w.conversation.position.stack with
      | [] => .failed (.strayExit w.conversation.position.node) w
      | frame :: rest => .moved { w.setPosition ⟨frame.caller, rest⟩ with passing := true }
  | .finish => .rested (w.setStatus (.terminal w.conversation.position.node))
  | .escalate => .rested (w.setStatus (.escalated (.node w.conversation.position.node)))
  | .deadEnd => .rested (w.setStatus (.escalated (.deadEnd w.conversation.position.node)))

/-- One step at the current node. -/
def step (g : Graph) (w : Walker) : Progress :=
  match look g w.conversation with
  | .error fault => .failed fault w
  | .ok (area, s) => make g (w.note g s) (w.decide g area s)

end Walker

/-- Go on for at most so many steps; a conversation that gets no further waits for input. -/
def walk (g : Graph) : Nat → Walker → Walker × Option ConversationFault
  | 0, w => (w.setStatus .awaitingInput, none)
  | n + 1, w =>
      match w.step g with
      | .moved w => walk g n w
      | .rested w => (w, none)
      | .failed fault w => (w, some fault)

end Parley

import Parley.Conversation.Owner
import Parley.Conversation.Turn

/-!
# Reviewing proposals

Each proposal is committed, refused or ignored.  A proposal of little confidence or for a key that
no node owns is ignored; any other goes through the validator of the node that owns its key.
-/

namespace Parley

/-- What a validator makes of a value; without one it is taken as it is. -/
def Step.accept (s : Step) (value : Json) : Except String Json :=
  match s.validator with
  | some v => v.accept value
  | none => .ok value

/-- The prompt of the node that a refused answer leads to. -/
def Area.clarification? (a : Area) (owner : Step) : Option String := do
  let target ← a.invalidTarget? owner.id
  (← a.step? target).node.prompt

namespace Review

def ignore (r : Review) (key : AnswerKey) (reason : IgnoreReason) : Review :=
  { r with ignored := r.ignored ++ [⟨key, reason⟩] }

/-- Note that an answer was refused.  The first refusal of a turn tells what to say about it. -/
def reject (r : Review) (rejection : Rejection) (clarification : String) (held : Bool) : Review :=
  { r with
    clarification := r.clarification.or (some clarification)
    rejected := r.rejected ++ [rejection]
    held := r.held || held }

end Review

namespace Conversation

/-- Store an accepted value. -/
def store (c : Conversation) (p : Proposal) (value : Json) : Conversation :=
  { c with answers := c.answers.insert p.key ⟨value, c.turn, p.confidence⟩ }

/-- Whether a conversation stands at a node. -/
def standsAt (c : Conversation) (area : Area) (s : Step) : Bool :=
  area.id = c.scope && s.id = c.position.node

/-- Review one proposal. -/
def commit (settings : TraversalSettings) (g : Graph) (c : Conversation) (r : Review)
    (p : Proposal) :
    Conversation × Review :=
  if p.confidence.lt settings.minConfidence then (c, r.ignore p.key .lowConfidence)
  else
    match c.owner? g p.key with
    | none => (c, r.ignore p.key .unknownKey)
    | some (area, owner) =>
        match owner.accept p.value with
        | .ok value => (c.store p value, { r with committed := r.committed ++ [p.key] })
        | .error reason =>
            (c, r.reject ⟨p.key, owner.id, reason⟩
              ((area.clarification? owner).getD settings.retryPrompt) (c.standsAt area owner))

/-- Review the proposals of a turn in order. -/
def commitAll (settings : TraversalSettings) (g : Graph) (c : Conversation) (ps : List Proposal) :
    Conversation × Review :=
  ps.foldl (fun (c, r) p => c.commit settings g r p) (c, {})

end Conversation

end Parley

import Mathlib.Tactic
import Parley.Conversation.Engine

/-!
# Walks, step by step

What one step of a walk can do, and what follows for whole walks.

* `Walker.decide_cases`: what can happen at a node;
* `walk_within`: what every step keeps, a walk keeps;
* `Conversation.Follows`, `walk_follows`: a walk changes the position and the status only;
* `Walker.after?`, `walk_add`: a walk that is cut, and the walk from there on.
-/

namespace Parley

/-! ### Links and moves -/

namespace Area

variable {a : Area} {id : NodeId} {l : Link}

theorem mem_outgoing : l ∈ a.outgoing id ↔ l ∈ a.links ∧ l.source = id := by
  simp [outgoing]

theorem mem_outgoing_of_choose {registry : Guard.Registry} {env : Guard.Environment}
    (h : a.choose id registry env = some l) : l ∈ a.outgoing id := by
  unfold choose at h
  rcases Option.or_eq_some_iff.1 h with h | ⟨-, h⟩ <;> exact List.mem_of_find?_eq_some h

/-- Where there is a fallback, a link is taken. -/
theorem exists_choose (registry : Guard.Registry) (env : Guard.Environment)
    (h : ∃ l ∈ a.outgoing id, l.guard.isFallback = true) :
    ∃ l, a.choose id registry env = some l := by
  obtain ⟨l, hl, hfallback⟩ := h
  rw [← Option.isSome_iff_exists, choose, Option.isSome_or, Bool.or_eq_true, List.find?_isSome,
    List.find?_isSome]
  cases hguard : l.guard with
  | always => exact .inl ⟨l, hl, by rw [hguard]; rfl⟩
  | otherwise => exact .inr ⟨l, hl, by rw [hguard]; rfl⟩
  | condition e =>
    rw [hguard, Guard.EdgeGuard.isFallback, Guard.EdgeGuard.isAlwaysTrue] at hfallback
    · unfold Guard.Expr.isAlwaysTrue at hfallback
      split at hfallback
      · exact .inl ⟨l, hl, by rw [hguard]; rfl⟩
      · cases hfallback
    · nofun

end Area

namespace Move

variable {o : Option Link} {id : NodeId} {scope : ScopeId}

theorem ofLink_eq_goto (h : ofLink o = .goto id) : ∃ l, o = some l ∧ l.target = .node id := by
  cases o with
  | none => cases h
  | some l =>
    refine ⟨l, rfl, ?_⟩
    simp only [ofLink] at h
    split at h <;> cases h
    assumption

theorem ofLink_eq_leave (h : ofLink o = .leave) : ∃ l, o = some l ∧ l.target = .exit := by
  cases o with
  | none => cases h
  | some l =>
    refine ⟨l, rfl, ?_⟩
    simp only [ofLink] at h
    split at h <;> cases h
    assumption

/-- A link is followed, leads out, or is missing. -/
theorem ofLink_cases (o : Option Link) :
    (∃ id, ofLink o = .goto id) ∨ ofLink o = .leave ∨ (o = none ∧ ofLink o = .deadEnd) := by
  cases o with
  | none => exact .inr (.inr ⟨rfl, rfl⟩)
  | some l =>
    simp only [ofLink]
    cases l.target with
    | node id => exact .inl ⟨id, rfl⟩
    | exit => exact .inr (.inl rfl)

end Move

namespace Walker

variable {g : Graph} {w w' : Walker} {area : Area} {s : Step}

/-- The move along the link that is taken from a node. -/
def onward (g : Graph) (w : Walker) (area : Area) (s : Step) : Move :=
  .ofLink (area.choose s.id g.predicates w.conversation.environment)

/-- What happens at a node that is run and does not go on by itself. -/
inductive Runs (c : Conversation) (s : Step) : Move → Prop
  | ask : s.node.kind = .question →
      (s.node.key.any fun key => Dict.contains c.answers key) = false →
      Runs c s .wait
  | fork : s.node.kind = .subgraphRef → s.subgraph = none → c.path.locked? = none → Runs c s .wait
  | call {scope : ScopeId} : s.node.kind = .subgraphRef → s.subgraph = some scope →
      Runs c s (.enter scope)
  | follow {path : PathId} {scope : ScopeId} : s.node.kind = .subgraphRef → s.subgraph = none →
      c.path.locked? = some path → s.pathScope? path = some scope → Runs c s (.enter scope)
  | stray {path : PathId} : s.node.kind = .subgraphRef → s.subgraph = none →
      c.path.locked? = some path → s.pathScope? path = none → Runs c s .deadEnd
  | finish : s.node.kind = .terminal → Runs c s .finish
  | escalate : s.node.kind = .escalation → Runs c s .escalate

theorem runs_intoSubgraph {c : Conversation} (hk : s.node.kind = .subgraphRef) :
    Runs c s (.intoSubgraph s c.path.locked?) := by
  unfold Move.intoSubgraph
  cases hs : s.subgraph with
  | some scope => exact .call hk hs
  | none =>
    cases hl : c.path.locked? with
    | none => exact .fork hk hs hl
    | some path =>
      cases hp : s.pathScope? path with
      | none => simpa [hp] using Runs.stray hk hs hl hp
      | some scope => simpa [hp] using Runs.follow hk hs hl hp

/-- An eligible node goes on along a link, or it is run. -/
theorem run_cases (c : Conversation) (s : Step) (m : Move) :
    run c s m = m ∨ Runs c s (run c s m) := by
  unfold run
  cases hk : s.node.kind with
  | question =>
    simp only
    split
    · exact .inl rfl
    · rename_i h
      exact .inr (.ask hk (by simpa using h))
  | decision => exact .inl rfl
  | action => exact .inl rfl
  | subgraphRef => exact .inr (runs_intoSubgraph hk)
  | terminal => exact .inr (.finish hk)
  | escalation => exact .inr (.escalate hk)

theorem decide_eq (g : Graph) (w : Walker) (area : Area) (s : Step) :
    w.decide g area s =
      if w.passing then w.onward g area s
      else if s.isEligible g.predicates w.conversation.environment then
        run w.conversation s (w.onward g area s)
      else w.onward g area s := rfl

/-- A link is taken, or else the node is eligible, has not been run yet and does not go on by
itself. -/
theorem decide_cases (g : Graph) (w : Walker) (area : Area) (s : Step) :
    w.decide g area s = w.onward g area s ∨
      (w.passing = false ∧ s.isEligible g.predicates w.conversation.environment = true ∧
        Runs w.conversation s (w.decide g area s)) := by
  rw [decide_eq]
  cases hp : w.passing with
  | true => exact .inl rfl
  | false =>
    cases he : s.isEligible g.predicates w.conversation.environment with
    | false => exact .inl rfl
    | true =>
      simp only [Bool.false_eq_true, if_false, if_true]
      rcases run_cases w.conversation s (w.onward g area s) with h | h
      · exact .inl h
      · exact .inr ⟨trivial, trivial, h⟩

/-- Only a link leads on to a node. -/
theorem decide_eq_goto {id : NodeId} (h : w.decide g area s = .goto id) :
    ∃ l ∈ area.outgoing s.id, l.target = .node id := by
  rcases decide_cases g w area s with ho | ⟨-, -, hr⟩
  · obtain ⟨l, hl, ht⟩ := Move.ofLink_eq_goto (ho.symm.trans h)
    exact ⟨l, Area.mem_outgoing_of_choose hl, ht⟩
  · rw [h] at hr
    cases hr

/-- Only a link leads out of a subgraph. -/
theorem decide_eq_leave (h : w.decide g area s = .leave) :
    ∃ l ∈ area.outgoing s.id, l.target = .exit := by
  rcases decide_cases g w area s with ho | ⟨-, -, hr⟩
  · obtain ⟨l, hl, ht⟩ := Move.ofLink_eq_leave (ho.symm.trans h)
    exact ⟨l, Area.mem_outgoing_of_choose hl, ht⟩
  · rw [h] at hr
    cases hr

/-- Only a node that is run enters a scope. -/
theorem runs_of_decide_eq_enter {scope : ScopeId} (h : w.decide g area s = .enter scope) :
    Runs w.conversation s (.enter scope) := by
  rcases decide_cases g w area s with ho | ⟨-, -, hr⟩
  · rcases Move.ofLink_cases (area.choose s.id g.predicates w.conversation.environment) with
      ⟨_, hm⟩ | hm | ⟨-, hm⟩ <;> rw [ho, onward, hm] at h <;> cases h
  · rwa [h] at hr

theorem Runs.mem_targets {c : Conversation} {scope : ScopeId} (h : Runs c s (.enter scope)) :
    scope ∈ s.targets := by
  rw [Step.targets, List.mem_append, Option.mem_toList, List.mem_map]
  cases h with
  | call _ hs => exact .inl hs
  | follow _ _ _ hp =>
    obtain ⟨p, hfind, rfl⟩ := Option.map_eq_some_iff.1 hp
    exact .inr ⟨p, List.mem_of_find?_eq_some hfind, rfl⟩

theorem look_eq_ok {c : Conversation} (h : look g c = .ok (area, s)) :
    g.area? c.scope = some area ∧ area.step? c.position.node = some s := by
  unfold look at h
  split at h
  · cases h
  · split at h <;> cases h
    exact ⟨by assumption, by assumption⟩

@[simp] theorem note_conversation (w : Walker) (g : Graph) (s : Step) :
    (w.note g s).conversation = w.conversation := by
  unfold note
  split <;> rfl

@[simp] theorem setStatus_conversation (w : Walker) (status : Status) :
    (w.setStatus status).conversation = { w.conversation with status := status } := rfl

@[simp] theorem setPosition_conversation (w : Walker) (p : Position) :
    (w.setPosition p).conversation = { w.conversation with position := p } := rfl

/-! ### Whole walks -/

/-- A property of the walker after a step that did not fail. -/
def Progress.Within (P : Walker → Prop) : Progress → Prop
  | .moved w => P w
  | .rested w => P w
  | .failed _ _ => False

end Walker

/-- What every step keeps without failing, a walk keeps without failing. -/
theorem walk_within {g : Graph} {P : Walker → Prop} (hstep : ∀ w, P w → (w.step g).Within P)
    (hstop : ∀ w, P w → P (w.setStatus .awaitingInput)) {n : Nat} {w : Walker} (hw : P w) :
    (walk g n w).2 = none ∧ P (walk g n w).1 := by
  induction n generalizing w with
  | zero =>
    -- the bound is reached, and the walk stops where it is
    exact ⟨rfl, hstop w hw⟩
  | succ n ih =>
    have h := hstep w hw
    unfold walk
    cases hs : w.step g with
    | moved w' =>
      rw [hs] at h
      exact ih h
    | rested w' =>
      rw [hs] at h
      exact ⟨rfl, h⟩
    | failed fault w' =>
      rw [hs] at h
      exact h.elim

/-- The walker that a step leaves. -/
def Walker.Progress.walker : Walker.Progress → Walker
  | .moved w => w
  | .rested w => w
  | .failed _ w => w

theorem Walker.Progress.Within.walker {P : Walker → Prop} {p : Progress} (h : p.Within P) :
    P p.walker := by
  cases p with
  | moved w | rested w => exact h
  | failed fault w => exact h.elim

/-- What every step keeps, whether it fails or not, a walk keeps. -/
theorem walk_keeps {g : Graph} {P : Walker → Prop} (hstep : ∀ w, P w → P (w.step g).walker)
    (hstop : ∀ w, P w → P (w.setStatus .awaitingInput)) {n : Nat} {w : Walker} (hw : P w) :
    P (walk g n w).1 := by
  induction n generalizing w with
  | zero => exact hstop w hw
  | succ n ih =>
    have h := hstep w hw
    unfold walk
    split <;> rename_i hs <;> rw [hs] at h
    · exact ih h
    · exact h
    · exact h

/-! ### What a walk leaves alone -/

/-- The second conversation is the first one at another position, perhaps with another status. -/
def Conversation.Follows (c c' : Conversation) : Prop :=
  c' = { c with status := c'.status, position := c'.position }

namespace Conversation.Follows

variable {c c' c'' : Conversation}

theorem refl (c : Conversation) : c.Follows c := rfl

theorem trans (h : c.Follows c') (h' : c'.Follows c'') : c.Follows c'' := by
  unfold Follows at *
  rw [h', h]

theorem flow_eq (h : c.Follows c') : c'.flow = c.flow := by rw [h]

theorem version_eq (h : c.Follows c') : c'.version = c.version := by rw [h]

theorem path_eq (h : c.Follows c') : c'.path = c.path := by rw [h]

theorem turn_eq (h : c.Follows c') : c'.turn = c.turn := by rw [h]

theorem answers_eq (h : c.Follows c') : c'.answers = c.answers := by rw [h]

end Conversation.Follows

theorem Walker.make_follows (g : Graph) (w : Walker) (m : Move) :
    w.conversation.Follows (w.make g m).walker.conversation := by
  cases m with
  | enter scope =>
    simp only [make]
    split <;> rfl
  | leave =>
    simp only [make]
    split <;> rfl
  | wait => rfl
  | goto id => rfl
  | finish => rfl
  | escalate => rfl
  | deadEnd => rfl

theorem Walker.step_follows (g : Graph) (w : Walker) :
    w.conversation.Follows (w.step g).walker.conversation := by
  unfold step
  split
  · exact .refl _
  · rename_i area s _
    have h := make_follows g (w.note g s) (w.decide g area s)
    rwa [note_conversation] at h

theorem walk_follows (g : Graph) (n : Nat) (w : Walker) :
    w.conversation.Follows (walk g n w).1.conversation :=
  walk_keeps (P := fun w' => w.conversation.Follows w'.conversation)
    (fun w' h => h.trans (w'.step_follows g)) (fun _ h => h.trans rfl) (.refl _)

/-! ### Walks that are cut -/

/-- The walker after so many steps, when none of them ends the walk. -/
def Walker.after? (g : Graph) : Nat → Walker → Option Walker
  | 0, w => some w
  | n + 1, w =>
      match w.step g with
      | .moved w => after? g n w
      | _ => none

theorem Walker.after?_keeps {g : Graph} {P : Walker → Prop} (hstep : ∀ w, P w → P (w.step g).walker)
    {n : Nat} {w w' : Walker} (hw : P w) (h : w.after? g n = some w') : P w' := by
  induction n generalizing w with
  | zero =>
    cases h
    exact hw
  | succ n ih =>
    have hnext := hstep w hw
    unfold Walker.after? at h
    split at h
    · rename_i hs
      rw [hs] at hnext
      exact ih hnext h
    · cases h

theorem walk_of_after? {g : Graph} {m : Nat} {w w' : Walker} (h : w.after? g m = some w') :
    walk g m w = (w'.setStatus .awaitingInput, none) := by
  induction m generalizing w with
  | zero =>
    cases h
    rfl
  | succ m ih =>
    unfold Walker.after? at h
    unfold walk
    split at h
    · rename_i hs
      rw [hs]
      exact ih h
    · cases h

/-- A walk with two bounds in turn is a walk with their sum. -/
theorem walk_add {g : Graph} {m : Nat} {w w' : Walker} (h : w.after? g m = some w') (k : Nat) :
    walk g (m + k) w = walk g k w' := by
  induction m generalizing w with
  | zero =>
    cases h
    rw [Nat.zero_add]
  | succ m ih =>
    unfold Walker.after? at h
    split at h
    · rename_i hs
      rw [Nat.add_right_comm, walk, hs]
      exact ih h
    · cases h

end Parley

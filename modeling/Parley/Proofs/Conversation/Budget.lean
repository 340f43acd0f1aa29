import Parley.Proofs.Conversation.Answers

/-!
# Turns that are cut

A turn passes a bounded number of nodes.  Where it is cut, an empty turn takes the conversation up
again, and the two should do what one turn with the sum of the bounds does.  They do so unless the
cut falls right after the way out of a subgraph: a conversation does not remember that its node has
been run, so the node is run once more.

* `Walker.Alike`, `walk_alike`: walkers that go the same way;
* `Graph.IsCaller`, `Graph.HasCallers`, `Walker.Returns`: where frames were entered from;
* `Engine.IsCutAt`, `Engine.Resumes`, `Engine.resumes_iff`.
-/

namespace Parley

/-! ### Walkers that go the same way -/

namespace Walker

variable {g : Graph} {before : List NodeId} {w w' : Walker} {area : Area} {s : Step}

/-- The current node may be run. -/
def AtEligible (g : Graph) (w : Walker) : Prop :=
  ∃ area s, look g w.conversation = .ok (area, s) ∧
    s.isEligible g.predicates w.conversation.environment = true

/-- Two walkers of which the first one has passed some actions before, and which are alike in all
that a step looks at.  Whether the current node has been run already matters only where it may be
run. -/
structure Alike (g : Graph) (before : List NodeId) (w w' : Walker) : Prop where
  position : w.conversation.position = w'.conversation.position
  answers : w.conversation.answers = w'.conversation.answers
  context : w.conversation.context = w'.conversation.context
  locked : w.conversation.path.locked? = w'.conversation.path.locked?
  actions : w.trail.actions = before ++ w'.trail.actions
  passing : w.passing = w'.passing ∨ (w'.passing = false ∧ ¬ w.AtEligible g)

/-- The actions that are noted at a node. -/
def noted (g : Graph) (w : Walker) (s : Step) : List NodeId :=
  if w.passing = false ∧ s.node.kind = .action ∧
      s.isEligible g.predicates w.conversation.environment = true then [s.id] else []

theorem note_actions (w : Walker) (g : Graph) (s : Step) :
    (w.note g s).trail.actions = w.trail.actions ++ w.noted g s := by
  unfold note noted
  cases w.passing <;> simp

theorem note_passing (w : Walker) (g : Graph) (s : Step) : (w.note g s).passing = false := by
  unfold note
  split
  · rfl
  · rename_i h
    simpa using h

namespace Alike

theorem environment (h : w.Alike g before w') :
    w'.conversation.environment = w.conversation.environment := by
  unfold Conversation.environment Conversation.value?
  rw [h.answers, h.context]

theorem look (h : w.Alike g before w') : look g w'.conversation = look g w.conversation := by
  unfold Walker.look Conversation.scope
  rw [h.position]

theorem run (h : w.Alike g before w') (s : Step) (m : Move) :
    run w'.conversation s m = run w.conversation s m := by
  unfold Walker.run
  rw [h.answers, h.locked]

/-- Both decide alike, and note alike. -/
theorem decide (h : w.Alike g before w') (hlook : Walker.look g w.conversation = .ok (area, s)) :
    w'.decide g area s = w.decide g area s ∧ w'.noted g s = w.noted g s := by
  rw [decide_eq, decide_eq, onward, onward, noted, noted, h.environment, h.run]
  rcases h.passing with hpassing | ⟨hpassing, hblocked⟩
  · rw [hpassing]
    exact ⟨rfl, rfl⟩
  · -- a node that may not be run is passed by both
    have hskipped : s.isEligible g.predicates w.conversation.environment = false := by
      rw [← Bool.not_eq_true]
      exact fun he => hblocked ⟨area, s, hlook, he⟩
    simp [hpassing, hskipped]

end Alike

/-- Steps that end alike. -/
def Progress.Alike (g : Graph) (before : List NodeId) : Progress → Progress → Prop
  | .moved w, .moved w' => w.Alike g before w'
  | .rested w, .rested w' => w.Alike g before w' ∧ w.conversation.status = w'.conversation.status
  | .failed _ _, .failed _ _ => True
  | _, _ => False

theorem make_alike (h : w.Alike g before w') (hpassing : w.passing = w'.passing) (m : Move) :
    (w.make g m).Alike g before (w'.make g m) := by
  obtain ⟨hposition, hanswers, hcontext, hlocked, hactions, -⟩ := h
  cases m with
  | wait => exact ⟨⟨hposition, hanswers, hcontext, hlocked, hactions, .inl hpassing⟩, rfl⟩
  | goto id =>
    refine ⟨?_, hanswers, hcontext, hlocked, hactions, .inl hpassing⟩
    simp [hposition]
  | enter scope =>
    simp only [make]
    cases g.area? scope with
    | none => trivial
    | some area =>
      refine ⟨?_, hanswers, hcontext, hlocked, hactions, .inl hpassing⟩
      simp [hposition]
  | leave =>
    simp only [make, hposition]
    cases w'.conversation.position.stack with
    | nil => trivial
    | cons f r => exact ⟨rfl, hanswers, hcontext, hlocked, hactions, .inl rfl⟩
  | finish | escalate | deadEnd =>
    refine ⟨⟨hposition, hanswers, hcontext, hlocked, hactions, .inl hpassing⟩, ?_⟩
    simp [hposition]

theorem step_alike (h : w.Alike g before w') : (w.step g).Alike g before (w'.step g) := by
  unfold step
  rw [h.look]
  cases hlook : look g w.conversation with
  | error fault => trivial
  | ok found =>
    obtain ⟨area, s⟩ := found
    obtain ⟨hdecide, hnoted⟩ := h.decide hlook
    have hnote : (w.note g s).Alike g before (w'.note g s) := by
      refine ⟨?_, ?_, ?_, ?_, ?_, .inl (by rw [note_passing, note_passing])⟩
      · simpa using h.position
      · simpa using h.answers
      · simpa using h.context
      · simpa using h.locked
      · rw [note_actions, note_actions, h.actions, hnoted, List.append_assoc]
    simp only [hdecide]
    exact make_alike hnote (by rw [note_passing, note_passing]) _

end Walker

/-- Walkers that go the same way rest at the same place. -/
theorem walk_alike {g : Graph} {before : List NodeId} {n : Nat} {w w' : Walker}
    (h : w.Alike g before w') (hfault : (walk g n w).2 = none) :
    (walk g n w').2 = none ∧ (walk g n w).1.Alike g before (walk g n w').1 ∧
      (walk g n w).1.conversation.status = (walk g n w').1.conversation.status := by
  induction n generalizing w w' with
  | zero =>
    refine ⟨rfl, ?_, rfl⟩
    exact ⟨h.position, h.answers, h.context, h.locked, h.actions, h.passing⟩
  | succ n ih =>
    have hstep := Walker.step_alike h
    unfold walk at hfault ⊢
    cases hs : w.step g with
    | moved v =>
      cases hs' : w'.step g with
      | moved v' =>
        rw [hs, hs'] at hstep
        rw [hs] at hfault
        exact ih hstep hfault
      | rested v' | failed fault v' =>
        rw [hs, hs'] at hstep
        exact hstep.elim
    | rested v =>
      cases hs' : w'.step g with
      | rested v' =>
        rw [hs, hs'] at hstep
        exact ⟨rfl, hstep⟩
      | moved v' | failed fault v' =>
        rw [hs, hs'] at hstep
        exact hstep.elim
    | failed fault v =>
      rw [hs] at hfault
      cases hfault

/-! ### Where frames were entered from -/

/-- A node that enters a fixed subgraph, or the one for the path that is locked. -/
def Graph.IsCaller (g : Graph) (path : PathState Binary64) (scope : ScopeId) (id : NodeId) : Prop :=
  ∃ area s, g.area? scope = some area ∧ area.step? id = some s ∧ s.node.kind = .subgraphRef ∧
    (s.subgraph = none → path.locked?.isSome = true)

/-- Frames, innermost first, of which each was entered from such a node. -/
def Graph.HasCallers (g : Graph) (path : PathState Binary64) : List Frame → Prop
  | [] => True
  | f :: r => g.IsCaller path (stackScope r) f.caller ∧ g.HasCallers path r

/-- A path that is locked stays locked. -/
def PathState.Keeps (path path' : PathState Binary64) : Prop :=
  path.locked?.isSome = true → path'.locked?.isSome = true

namespace Graph

variable {g : Graph} {path path' : PathState Binary64}

theorem IsCaller.mono {scope : ScopeId} {id : NodeId} (hpath : path.Keeps path')
    (h : g.IsCaller path scope id) :
    g.IsCaller path' scope id := by
  obtain ⟨area, s, harea, hs, hkind, hlocked⟩ := h
  exact ⟨area, s, harea, hs, hkind, fun hnone => hpath (hlocked hnone)⟩

theorem HasCallers.mono {frames : List Frame} (hpath : path.Keeps path')
    (h : g.HasCallers path frames) :
    g.HasCallers path' frames := by
  induction frames with
  | nil => trivial
  | cons f r ih => exact ⟨h.1.mono hpath, ih h.2⟩

end Graph

theorem PolicySettings.keeps_observe (p : PolicySettings Binary64) (s : PathState Binary64)
    (o : Option PathId) :
    s.Keeps (p.observe s o).1 := by
  intro h
  have hlocked : s.isLocked = true := by
    unfold PathState.locked? at h
    split at h
    · assumption
    · cases h
  cases o <;> simpa [observe, hlocked] using h

namespace Walker

variable {g : Graph} {w w' : Walker}

/-- All frames were entered from nodes that enter them. -/
def HasCallers (g : Graph) (w : Walker) : Prop :=
  g.HasCallers w.conversation.path w.conversation.position.stack

/-- Besides, a node that was come back to is such a node. -/
structure Returns (g : Graph) (w : Walker) : Prop where
  frames : w.HasCallers g
  caller : w.passing = true →
      g.IsCaller w.conversation.path w.conversation.scope w.conversation.position.node

theorem Runs.isCaller {c : Conversation} {s : Step} {area : Area} {scope : ScopeId}
    (hlook : look g c = .ok (area, s)) (h : Runs c s (.enter scope)) :
    g.IsCaller c.path c.scope c.position.node := by
  obtain ⟨harea, hs⟩ := look_eq_ok hlook
  cases h with
  | call hkind hsubgraph =>
    refine ⟨area, s, harea, hs, hkind, fun hnone => ?_⟩
    rw [hsubgraph] at hnone
    cases hnone
  | follow hkind _ hlocked _ => exact ⟨area, s, harea, hs, hkind, fun _ => by rw [hlocked]; rfl⟩

/-- A step keeps track of where frames were entered from. -/
theorem step_hasCallers (h : w.HasCallers g) : (w.step g).walker.HasCallers g := by
  unfold step
  cases hlook : look g w.conversation with
  | error fault => exact h
  | ok found =>
    obtain ⟨area, s⟩ := found
    have hnote : (w.note g s).HasCallers g := by
      unfold HasCallers
      rw [note_conversation]
      exact h
    simp only
    cases hm : w.decide g area s with
    | wait | finish | escalate | deadEnd => exact hnote
    | goto id => exact hnote
    | enter scope =>
      have hcaller := (runs_of_decide_eq_enter hm).isCaller hlook
      simp only [make]
      cases g.area? scope with
      | none => exact hnote
      | some inner =>
        simp only [Progress.walker, HasCallers, setPosition_conversation, note_conversation]
        exact ⟨hcaller, h⟩
    | leave =>
      simp only [make]
      cases hstack : (w.note g s).conversation.position.stack with
      | nil => exact hnote
      | cons f r =>
        rw [HasCallers, hstack] at hnote
        exact hnote.2

/-- Only on the way out of a subgraph the node has been run already. -/
theorem make_passing {m : Move} (hw : w.passing = false) (h : (w.make g m).walker.passing = true) :
    ∃ f r, w.conversation.position.stack = f :: r ∧
      (w.make g m).walker.conversation.position = ⟨f.caller, r⟩ := by
  cases m with
  | wait | goto | finish | escalate | deadEnd => exact absurd (h.symm.trans hw) nofun
  | enter scope =>
    simp only [make] at h
    split at h <;> exact absurd (h.symm.trans hw) nofun
  | leave =>
    simp only [make] at h ⊢
    cases hstack : w.conversation.position.stack with
    | nil =>
      rw [hstack] at h
      exact absurd (h.symm.trans hw) nofun
    | cons f r => exact ⟨f, r, rfl, rfl⟩

/-- **A step comes back to nodes that enter subgraphs only.** -/
theorem step_returns (h : w.Returns g) : (w.step g).walker.Returns g := by
  refine ⟨step_hasCallers h.frames, ?_⟩
  have hpath := (w.step_follows g).path_eq
  unfold step at hpath ⊢
  cases hlook : look g w.conversation with
  | error fault => exact h.caller
  | ok found =>
    obtain ⟨area, s⟩ := found
    rw [hlook] at hpath
    intro hpassing
    -- the caller is that of the innermost frame before the step
    obtain ⟨f, r, hstack, hposition⟩ := make_passing (note_passing w g s) hpassing
    have hframes := h.frames
    rw [note_conversation] at hstack
    rw [HasCallers, hstack] at hframes
    rw [Conversation.scope, hpath, hposition]
    exact hframes.1

end Walker

namespace Engine

variable {e : Engine} {g : Graph} {c : Conversation}

/-- A walk sets out with the frames of the conversation. -/
theorem Departs.hasCallers {k : Call} {c₁ : Conversation} {passing : Bool} {review : Review}
    (h : e.Departs g c k c₁ passing review) (hc : g.HasCallers c.path c.position.stack) :
    g.HasCallers c₁.path c₁.position.stack := by
  cases h with
  | turn => exact hc.mono (e.policy.keeps_observe c.path _)
  | resumeAt | resume => exact hc
  | overridePath => exact hc.mono fun _ => rfl

theorem Stays.hasCallers {k : Call} {r : Reply} (h : e.Stays g c k r)
    (hc : g.HasCallers c.path c.position.stack) :
    g.HasCallers r.conversation.path r.conversation.position.stack := by
  cases h with
  | suspended | held => exact hc.mono (e.policy.keeps_observe c.path _)
  | overridden => exact hc.mono fun _ => rfl
  | idle | notEscalated | missingScope | notInScope | notOffered => exact hc

theorem advance_hasCallers (hc : g.HasCallers c.path c.position.stack) (passing : Bool)
    (review : Review) (path : PathDecision) :
    g.HasCallers (e.advance g c passing review path).conversation.path
      (e.advance g c passing review path).conversation.position.stack :=
  walk_keeps (P := Walker.HasCallers g) (fun _ => Walker.step_hasCallers) (fun _ h => h)
    (w := ⟨c, {}, passing⟩) hc

end Engine

theorem Graph.Reaches.hasCallers {g : Graph} {c : Conversation} (h : g.Reaches c) :
    c.PinnedTo g ∧ g.HasCallers c.path c.position.stack := by
  induction h with
  | start e context =>
    exact ⟨e.start_pinnedTo g context, Engine.advance_hasCallers (c := Engine.opened g _ context)
      trivial _ _ _⟩
  | call e k _ ih =>
    obtain ⟨hpinned, hcallers⟩ := ih
    refine ⟨Engine.call_pinnedTo hpinned k, ?_⟩
    rcases Engine.call_cases (e := e) hpinned k with
      ⟨c₁, passing, review, decision, hd, hr⟩ | hstays
    · rw [hr]
      exact Engine.advance_hasCallers (hd.hasCallers hcallers) passing review decision
    · exact hstays.hasCallers hcallers

/-! ### Two turns for one -/

namespace PolicySettings

variable {ν : Type} [NatCast ν] [Add ν] [Mul ν] [Div ν] [LE ν] [DecidableLE ν]

theorem locked?_observe_none (p : PolicySettings ν) (s : PathState ν) :
    (p.observe s none).1.locked? = s.locked? := by
  unfold observe
  dsimp only
  split
  · rfl
  · rfl

end PolicySettings

namespace Engine

variable {e : Engine} {g : Graph} {c : Conversation} {input : TurnInput} {m k : Nat} {w : Walker}

/-- The engine with another bound on the nodes that a turn passes. -/
def withBudget (e : Engine) (n : Nat) : Engine :=
  { e with traversal := { e.traversal with maxAutoSteps := n } }

/-- A turn goes on with a walk that has not come to rest after so many steps, and gets this far. -/
def IsCutAt (e : Engine) (g : Graph) (c : Conversation) (input : TurnInput) (n : Nat) (w : Walker) :
    Prop :=
  c.status = .awaitingInput ∧ input.escalate = false ∧ (e.reviewed g c input).held = false ∧
    Walker.after? g n ⟨e.answered g c input, {}, false⟩ = some w

/-- A turn with one bound and an empty turn with another do together what the turn does with the sum
of the bounds: the conversation gets to the same node inside the same frames, with the same status
and the same answers, and the same actions are reported in the same order. -/
def Resumes (e : Engine) (g : Graph) (c : Conversation) (input : TurnInput) (m k : Nat) : Prop :=
  let cut := (e.withBudget m).turn g c input
  let resumed := (e.withBudget k).turn g cut.conversation {}
  let whole := (e.withBudget (m + k)).turn g c input
  ∃ o o' o'', cut.result = .ok o ∧ resumed.result = .ok o' ∧ whole.result = .ok o'' ∧
    resumed.conversation.position = whole.conversation.position ∧
    resumed.conversation.status = whole.conversation.status ∧
    resumed.conversation.answers = whole.conversation.answers ∧
    o.trail.actions ++ o'.trail.actions = o''.trail.actions

/-- A turn that walks. -/
theorem turn_eq_advance (hc : c.PinnedTo g) (hs : c.status = .awaitingInput)
    (hescalate : input.escalate = false) (hheld : (e.reviewed g c input).held = false) :
    ∃ decision, e.turn g c input =
      e.advance g (e.answered g c input) false (e.reviewed g c input) decision := by
  refine ⟨(e.policy.observe c.path input.path).2, ?_⟩
  rw [turn, pinned_eq hc, if_pos hs, processTurn_eq]
  simp only [hescalate, hheld, Bool.false_eq_true, if_false]

/-- The conversation that an empty turn takes up where a turn was cut. -/
def takenUp (e : Engine) (w : Walker) : Conversation :=
  { w.conversation with
    status := .awaitingInput
    turn := w.conversation.turn + 1
    path := (e.policy.observe w.conversation.path none).1 }

theorem advance_eq_ok {c₁ : Conversation} {review : Review} {decision : PathDecision}
    {o : Outcome} :
    ((e.withBudget k).advance g c₁ false review decision).result = .ok o ↔
      (walk g k ⟨c₁, {}, false⟩).2 = none ∧
        outcome g (walk g k ⟨c₁, {}, false⟩).1.conversation review
          (walk g k ⟨c₁, {}, false⟩).1.trail decision =
          o := by
  simp only [advance, withBudget]
  cases (walk g k ⟨c₁, {}, false⟩).2 <;> simp

theorem withBudget_advance_conversation {c₁ : Conversation} {review : Review}
    {decision : PathDecision} :
    ((e.withBudget k).advance g c₁ false review decision).conversation =
      (walk g k ⟨c₁, {}, false⟩).1.conversation := rfl

/-- Two walkers come to rest alike, the first one with some actions still to be put before its
own. -/
def RestsLike (g : Graph) (k : Nat) (before : List NodeId) (w' w : Walker) : Prop :=
  (walk g k w').2 = none ∧ (walk g k w).2 = none ∧
    (walk g k w').1.conversation.position = (walk g k w).1.conversation.position ∧
    (walk g k w').1.conversation.status = (walk g k w).1.conversation.status ∧
    (walk g k w').1.conversation.answers = (walk g k w).1.conversation.answers ∧
    before ++ (walk g k w').1.trail.actions = (walk g k w).1.trail.actions

/-- The walk of the empty turn is to be compared with what is left of the whole walk. -/
theorem resumes_iff_restsLike (hc : c.PinnedTo g) (hcut : e.IsCutAt g c input m w) :
    e.Resumes g c input m k ↔ RestsLike g k w.trail.actions ⟨e.takenUp w, {}, false⟩ w := by
  obtain ⟨hs, hescalate, hheld, hafter⟩ := hcut
  obtain ⟨d, hturn⟩ := turn_eq_advance (e := e.withBudget m) hc hs hescalate hheld
  obtain ⟨d'', hwhole⟩ := turn_eq_advance (e := e.withBudget (m + k)) hc hs hescalate hheld
  have hwalk : walk g m ⟨(e.withBudget m).answered g c input, {}, false⟩ =
      (w.setStatus .awaitingInput, none) := walk_of_after? hafter
  have hrest : walk g (m + k) ⟨(e.withBudget (m + k)).answered g c input, {}, false⟩ = walk g k w :=
    walk_add hafter k
  have hcut : ((e.withBudget m).turn g c input).conversation =
      (w.setStatus .awaitingInput).conversation := by
    rw [hturn, withBudget_advance_conversation, hwalk]
  have hpinned : (w.setStatus .awaitingInput).conversation.PinnedTo g :=
    hcut ▸ call_pinnedTo hc (.turn input)
  obtain ⟨d', hresumed⟩ : ∃ d', (e.withBudget k).turn g
    (w.setStatus .awaitingInput).conversation {} =
      (e.withBudget k).advance g (e.takenUp w) false {} d' := turn_eq_advance hpinned rfl rfl rfl
  unfold Resumes RestsLike
  simp only [hcut, hresumed, hwhole]
  simp only [hturn, advance_eq_ok, withBudget_advance_conversation, hwalk, hrest]
  constructor
  · rintro ⟨o, o', o'', ⟨-, rfl⟩, ⟨hfault', rfl⟩, ⟨hfault, rfl⟩, halike⟩
    exact ⟨hfault', hfault, halike⟩
  · rintro ⟨hfault', hfault, halike⟩
    exact ⟨_, _, _, ⟨trivial, rfl⟩, ⟨hfault', rfl⟩, ⟨hfault, rfl⟩, halike⟩

/-- Where the cut does not matter, the two walks go the same way. -/
theorem restsLike_of_alike {w' : Walker} (h : w.Alike g w.trail.actions w')
    (hfault : (walk g k w).2 = none) :
    RestsLike g k w.trail.actions w' w := by
  obtain ⟨hfault', halike, hstatus⟩ := walk_alike h hfault
  exact ⟨hfault', hfault, halike.position.symm, hstatus.symm, halike.answers.symm,
    halike.actions.symm⟩

theorem takenUp_alike (e : Engine) (h : ¬ (w.passing = true ∧ w.AtEligible g)) :
    w.Alike g w.trail.actions ⟨e.takenUp w, {}, false⟩ := by
  refine ⟨rfl, rfl, rfl, ?_, (List.append_nil _).symm, ?_⟩
  · exact (PolicySettings.locked?_observe_none e.policy w.conversation.path).symm
  · cases hpassing : w.passing with
    | false => exact .inl rfl
    | true => exact .inr ⟨rfl, fun he => h ⟨hpassing, he⟩⟩

end Engine

/-! ### Where the cut matters -/

namespace Walker

variable {g : Graph} {w : Walker}

theorem look_of_isCaller {c : Conversation} {area : Area} {s : Step}
    (harea : g.area? c.scope = some area) (hs : area.step? c.position.node = some s) :
    look g c = .ok (area, s) := by
  simp [look, harea, hs]

/-- A walker that has come back to a caller goes on in the scope of the caller or further out. -/
theorem walk_one_past (hg : g.IsCompiled) (hw : w.conversation.position.LiesIn g)
    (hpassing : w.passing = true)
    (hcaller : g.IsCaller w.conversation.path w.conversation.scope w.conversation.position.node) :
    (walk g 1 w).1.conversation.status = .awaitingInput ∧
      (walk g 1 w).1.conversation.position.stack.length ≤ w.conversation.position.stack.length := by
  obtain ⟨area, s, harea, hs, hkind, -⟩ := hcaller
  have hlook := look_of_isCaller harea hs
  obtain ⟨l, hl⟩ := Area.exists_choose g.predicates w.conversation.environment
    (hg.exists_fallback (Graph.area?_mem harea) (Area.step?_mem hs) (by rw [hkind]; rfl))
  have hdecide : w.decide g area s = .ofLink (some l) := by
    rw [decide_eq, if_pos hpassing, onward, hl]
  have hstep : w.step g = make g (w.note g s) (.ofLink (some l)) := by
    rw [step, hlook, ← hdecide]
  have hwithin := step_liesIn hg.isClosed hw
  rw [walk, hstep]
  rw [hstep] at hwithin
  cases ht : l.target with
  | node id =>
    have hmove : Move.ofLink (some l) = .goto id := by simp [Move.ofLink, ht]
    rw [hmove]
    exact ⟨rfl, by simp [make, walk]⟩
  | exit =>
    have hmove : Move.ofLink (some l) = .leave := by simp [Move.ofLink, ht]
    rw [hmove] at hwithin ⊢
    simp only [make, note_conversation] at hwithin ⊢
    cases hstack : w.conversation.position.stack with
    | nil =>
      rw [hstack] at hwithin
      exact hwithin.elim
    | cons f r => exact ⟨rfl, by simp [walk]⟩

theorem walk_one_enter {s : Step} {scope : ScopeId}
    (hstep : w.step g = make g (w.note g s) (.enter scope)) (hfault : (walk g 1 w).2 = none) :
    (walk g 1 w).1.conversation.position.stack.length =
      w.conversation.position.stack.length + 1 := by
  rw [walk, hstep, make] at hfault ⊢
  cases harea : g.area? scope with
  | none =>
    rw [harea] at hfault
    cases hfault
  | some area => simp [walk]

/-- A walker that runs a caller once more goes in again, or gets stuck. -/
theorem walk_one_again (hpassing : w.passing = false) (heligible : w.AtEligible g)
    (hcaller : g.IsCaller w.conversation.path w.conversation.scope w.conversation.position.node)
    (hfault : (walk g 1 w).2 = none) :
    (walk g 1 w).1.conversation.status ≠ .awaitingInput ∨
      (walk g 1 w).1.conversation.position.stack.length =
        w.conversation.position.stack.length + 1 := by
  obtain ⟨area, s, harea, hs, hkind, hlocked⟩ := hcaller
  obtain ⟨area', s', hlook, hmay⟩ := heligible
  rw [look_of_isCaller harea hs] at hlook
  cases hlook
  have hruns : Runs w.conversation s (w.decide g area s) := by
    rw [decide_eq, if_neg (by simp [hpassing]), if_pos hmay, run, hkind]
    exact runs_intoSubgraph hkind
  have hstep : w.step g = make g (w.note g s) (w.decide g area s) := by
    rw [step, look_of_isCaller harea hs]
  generalize w.decide g area s = m at hruns hstep
  cases hruns with
  | ask h | finish h | escalate h =>
    rw [hkind] at h
    cases h
  | fork _ hnone hunlocked =>
    have hsome := hlocked hnone
    rw [hunlocked] at hsome
    cases hsome
  | call | follow => exact .inr (walk_one_enter hstep hfault)
  | stray =>
    rw [walk, hstep]
    refine .inl fun h => ?_
    cases h

end Walker

namespace Engine

variable {e : Engine} {g : Graph} {c : Conversation} {input : TurnInput} {m : Nat} {w : Walker}

/-- Where a turn is cut, frames are still known to be entered from where they were. -/
theorem IsCutAt.returns (hc : g.HasCallers c.path c.position.stack)
    (hcut : e.IsCutAt g c input m w) :
    w.Returns g := by
  obtain ⟨hs, hescalate, hheld, hafter⟩ := hcut
  have hstart : Walker.Returns g ⟨e.answered g c input, {}, false⟩ :=
    ⟨(Departs.turn hs hescalate hheld).hasCallers hc, nofun⟩
  exact Walker.after?_keeps (fun _ => Walker.step_returns) hstart hafter

theorem IsCutAt.liesIn (hg : g.IsClosed) (hc : c.IsPlaced g) (hcut : e.IsCutAt g c input m w) :
    w.conversation.position.LiesIn g := by
  obtain ⟨hs, hescalate, hheld, hafter⟩ := hcut
  have hwalk := (walk_liesIn hg (w := ⟨e.answered g c input, {}, false⟩) hc.position m).2
  rwa [walk_of_after? hafter] at hwalk

/-- A cut right after the way out of a subgraph that may be run matters at once. -/
theorem not_restsLike (hg : g.IsCompiled) (hw : w.conversation.position.LiesIn g)
    (hreturns : w.Returns g) (hpassing : w.passing = true) (heligible : w.AtEligible g) :
    ¬ RestsLike g 1 w.trail.actions ⟨e.takenUp w, {}, false⟩ w := by
  rintro ⟨hfault, -, hposition, hstatus, -⟩
  -- one step of the whole walk does not go deeper, one step of the empty turn does or gets stuck
  have hcaller := hreturns.caller hpassing
  obtain ⟨hwaits, hlength⟩ := Walker.walk_one_past hg hw hpassing hcaller
  have hagain : g.IsCaller (e.takenUp w).path (e.takenUp w).scope (e.takenUp w).position.node :=
    hcaller.mono (e.policy.keeps_observe w.conversation.path none)
  have hmay : Walker.AtEligible g ⟨e.takenUp w, {}, false⟩ := heligible
  rcases Walker.walk_one_again rfl hmay hagain hfault with hstuck | hdeeper
  · exact hstuck (hstatus.trans hwaits)
  · have hstack : (e.takenUp w).position.stack.length = w.conversation.position.stack.length := rfl
    rw [hposition, hstack] at hdeeper
    omega

/-- **The bound on a turn only delays a conversation, but for one place.**  A turn that is cut and
any empty turn after it do what one turn does, unless the cut falls right after the way out of a
subgraph whose caller may be run: then it is run once more. -/
theorem resumes_iff (hg : g.IsCompiled) (hc : g.Reaches c) (hcut : e.IsCutAt g c input m w) :
    (∀ k, 1 ≤ k → e.Resumes g c input m k) ↔ ¬ (w.passing = true ∧ w.AtEligible g) := by
  obtain ⟨hpinned, hcallers⟩ := hc.hasCallers
  have hw := hcut.liesIn hg.isClosed (hc.isPlaced hg)
  constructor
  · -- the shortest empty turn tells the two apart
    rintro hall ⟨hpassing, heligible⟩
    have hone := (resumes_iff_restsLike hpinned hcut).1 (hall 1 le_rfl)
    exact not_restsLike hg hw (hcut.returns hcallers) hpassing heligible hone
  · intro hcuts k _
    exact (resumes_iff_restsLike hpinned hcut).2
      (restsLike_of_alike (takenUp_alike e hcuts) (walk_liesIn hg.isClosed hw k).1)

end Engine

/-! ### A cut on the way out of a subgraph -/

namespace Samples

/-- The conversation about the detour after its question was answered. -/
def detourAnswered : Conversation :=
  { flow := "detour"
    version := 1
    position := ⟨"ask", []⟩
    turn := 1
    answers := [("ready", ⟨.bool true, 1, .ofNat 1⟩)] }

theorem answered_ready :
    (Engine.ofSettings {}).answered (detourGraph 1) detourStart readyTurn = detourAnswered :=
  Engine.answered_of_accepts rfl ready_accepts

theorem held_ready :
    ((Engine.ofSettings {}).reviewed (detourGraph 1) detourStart readyTurn).held = false :=
  Engine.held_of_accepts rfl ready_accepts

/-- The walk of the turn is cut where it has got to. -/
theorem readyTurn_isCutAt {n : Nat} {w : Walker}
    (hafter : Walker.after? (detourGraph 1) n ⟨detourAnswered, {}, false⟩ = some w) :
    (Engine.ofSettings {}).IsCutAt (detourGraph 1) detourStart readyTurn n w := by
  refine ⟨rfl, rfl, held_ready, ?_⟩
  rw [answered_ready]
  exact hafter

/-- A cut right after the question does not matter. -/
theorem detour_resumes :
    (detourGraph 1).IsCompiled ∧ (detourGraph 1).Reaches detourStart ∧
      ∀ k, 1 ≤ k → (Engine.ofSettings {}).Resumes (detourGraph 1) detourStart readyTurn 1 k := by
  have hg := detourGraph_isCompiled 1
  have hreach : (detourGraph 1).Reaches detourStart := .start (.ofSettings {}) []
  refine ⟨hg, hreach, (Engine.resumes_iff hg hreach (readyTurn_isCutAt rfl)).2 ?_⟩
  rintro ⟨hpassing, -⟩
  cases hpassing

/-- The walker of the turn on its way out of the subgraph. -/
def detourCut : Walker :=
  ⟨{ detourAnswered with position := ⟨"call", []⟩ }, ⟨["ask", "call", "note"], ["note"]⟩, true⟩

/-- A cut on the way out of the subgraph changes where the conversation goes: the subgraph is gone
through once more, and the conversation does not get to its end. -/
theorem detour_not_resumes :
    (detourGraph 1).IsCompiled ∧ (detourGraph 1).Reaches detourStart ∧
      (Engine.ofSettings {}).IsCutAt (detourGraph 1) detourStart readyTurn 3 detourCut ∧
      ¬ (Engine.ofSettings {}).Resumes (detourGraph 1) detourStart readyTurn 3 3 := by
  have hcut := readyTurn_isCutAt (n := 3) (w := detourCut) rfl
  have hpinned : detourStart.PinnedTo (detourGraph 1) := ⟨rfl, rfl⟩
  refine ⟨detourGraph_isCompiled 1, .start (.ofSettings {}) [], hcut, fun h => ?_⟩
  obtain ⟨-, -, -, hstatus, -⟩ := (Engine.resumes_iff_restsLike hpinned hcut).1 h
  exact nomatch hstatus

end Samples

end Parley

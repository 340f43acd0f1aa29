import Parley.Proofs.Conversation.Run
import Parley.Proofs.Graph.Compiled

/-!
# Where conversations stand

On a compiled graph a conversation always stands at a node of its scope, below frames whose scopes
exist and whose callers are nodes of the scopes around them.  So no walk ever gets lost.

* `Graph.HasNode`, `Graph.HasFrames`, `Position.LiesIn`: a position that a graph has;
* `Walker.step_liesIn`, `walk_liesIn`: steps and walks stay in the graph;
* `Engine.repin_eq_ok`: when a conversation can be moved to another version;
* `Engine.reaches_placed`: calls fail for the reasons meant for the caller only.
-/

namespace Parley

/-- A scope of a graph has a node. -/
def Graph.HasNode (g : Graph) (scope : ScopeId) (id : NodeId) : Prop :=
  ∃ a, g.area? scope = some a ∧ a.contains id = true

/-- The scopes of frames, innermost first, exist, and each caller is a node of the scope around its
frame. -/
def Graph.HasFrames (g : Graph) : List Frame → Prop
  | [] => True
  | f :: r => f.scope ∈ g.scopeIds ∧ g.HasNode (stackScope r) f.caller ∧ g.HasFrames r

theorem Graph.HasFrames.of_append {g : Graph} {inner outer : List Frame}
    (h : g.HasFrames (inner ++ outer)) :
    g.HasFrames outer := by
  induction inner with
  | nil => exact h
  | cons f r ih => exact ih h.2.2

/-- The current scope has the current node, and the frames around it are there. -/
structure Position.LiesIn (g : Graph) (p : Position) : Prop where
  node : g.HasNode p.scope p.node
  frames : g.HasFrames p.stack

variable {g : Graph}

namespace Walker

variable {w : Walker} {area : Area} {s : Step}

/-- A conversation that lies in a graph sees its scope and its node. -/
theorem exists_look {c : Conversation} (h : c.position.LiesIn g) :
    ∃ area s, look g c = .ok (area, s) := by
  obtain ⟨area, ha, hc⟩ := h.node
  obtain ⟨s, hs⟩ := Option.isSome_iff_exists.1 (show (area.step? c.position.node).isSome from hc)
  refine ⟨area, s, ?_⟩
  simp [look, Conversation.scope, ha, hs]

/-- The move that is decided on can be made, and it stays in the graph. -/
theorem make_liesIn (hg : g.IsClosed) (hw : w.conversation.position.LiesIn g)
    (hlook : look g w.conversation = .ok (area, s)) :
    (make g (w.note g s) (w.decide g area s)).Within fun w' =>
      w'.conversation.position.LiesIn g := by
  obtain ⟨harea, hs⟩ := look_eq_ok hlook
  have hclosed := hg.areas area (Graph.area?_mem harea)
  have hid : area.id = w.conversation.scope := Graph.area?_id harea
  have hnode : s.id = w.conversation.position.node := Area.step?_id hs
  cases hm : w.decide g area s with
  | wait | finish | escalate | deadEnd => simpa [make, Progress.Within] using hw
  | goto id =>
    obtain ⟨l, hl, ht⟩ := decide_eq_goto hm
    have hstays := hclosed.links l (Area.mem_outgoing.1 hl).1
    rw [Link.StaysIn, ht] at hstays
    simp only [make, Progress.Within, setPosition_conversation, note_conversation]
    exact ⟨⟨area, harea, Area.contains_iff.2 hstays⟩, hw.frames⟩
  | enter scope =>
    have hscope : scope ∈ g.scopeIds :=
      hclosed.targets s (Area.step?_mem hs) scope (runs_of_decide_eq_enter hm).mem_targets
    obtain ⟨inner, hinner⟩ := Graph.exists_area?_iff.2 hscope
    have hentry := (hg.areas inner (Graph.area?_mem hinner)).entry
    simp only [make, hinner, Progress.Within, setPosition_conversation, note_conversation]
    exact ⟨⟨inner, hinner, hentry⟩, hscope, hw.node, hw.frames⟩
  | leave =>
    obtain ⟨l, hl, ht⟩ := decide_eq_leave hm
    -- the caller of the innermost frame is a node of the scope around it
    have hstays := hclosed.links l (Area.mem_outgoing.1 hl).1
    rw [Link.StaysIn, ht, hid] at hstays
    have hframes := hw.frames
    cases hstack : w.conversation.position.stack with
    | nil =>
      -- the root has no link that leads out
      rw [Conversation.scope, Position.scope, hstack] at hstays
      cases hstays
    | cons f r =>
      rw [hstack] at hframes
      simp only [make, note_conversation, hstack, Progress.Within]
      exact ⟨hframes.2.1, hframes.2.2⟩

/-- **A step in a closed graph does not fail and stays in the graph.** -/
theorem step_liesIn (hg : g.IsClosed) (hw : w.conversation.position.LiesIn g) :
    (w.step g).Within fun w' => w'.conversation.position.LiesIn g := by
  obtain ⟨area, s, hlook⟩ := exists_look hw
  have h := make_liesIn hg hw hlook
  unfold step
  rwa [hlook]

end Walker

/-- A walk in a closed graph does not fail and stays in the graph. -/
theorem walk_liesIn (hg : g.IsClosed) {w : Walker}
    (hw : w.conversation.position.LiesIn g) (n : Nat) :
    (walk g n w).2 = none ∧ (walk g n w).1.conversation.position.LiesIn g :=
  walk_within (P := fun w => w.conversation.position.LiesIn g) (fun _ => Walker.step_liesIn hg)
    (fun _ h => h) hw

/-- A conversation is pinned to a graph and lies in it. -/
structure Conversation.IsPlaced (c : Conversation) (g : Graph) : Prop extends c.PinnedTo g where
  position : c.position.LiesIn g

namespace Engine

variable {e : Engine} {c : Conversation}

theorem advance_isPlaced (hg : g.IsClosed) (hc : c.IsPlaced g) (passing : Bool) (review : Review)
    (path : PathDecision) :
    (e.advance g c passing review path).conversation.IsPlaced g ∧
      ∃ o, (e.advance g c passing review path).result = .ok o := by
  obtain ⟨hfault, hposition⟩ :=
    walk_liesIn hg (w := ⟨c, {}, passing⟩) hc.position e.traversal.maxAutoSteps
  exact ⟨⟨advance_pinnedTo hc.toPinnedTo passing review path, hposition⟩, _, advance_result hfault⟩

/-- A walk sets out from where the conversation stands, or from another node of its scope. -/
theorem Departs.isPlaced {k : Call} {c₁ : Conversation} {passing : Bool} {review : Review}
    (h : e.Departs g c k c₁ passing review) (hc : c.IsPlaced g) : c₁.IsPlaced g := by
  refine ⟨h.pinnedTo hc.toPinnedTo, ?_⟩
  cases h with
  | turn | resume | overridePath => exact hc.position
  | resumeAt _ ha hcontains => exact ⟨⟨_, ha, hcontains⟩, hc.position.frames⟩

theorem Stays.isPlaced {k : Call} {r : Reply} (h : e.Stays g c k r) (hc : c.IsPlaced g) :
    r.conversation.IsPlaced g := by
  refine ⟨h.pinnedTo hc.toPinnedTo, ?_⟩
  cases h <;> exact hc.position

theorem call_isPlaced (hg : g.IsClosed) (hc : c.IsPlaced g) (k : Call) :
    (e.call g c k).conversation.IsPlaced g := by
  rcases call_cases hc.toPinnedTo k with ⟨c₁, passing, review, decision, hd, hr⟩ | hstays
  · rw [hr]
    exact (advance_isPlaced hg (hd.isPlaced hc) passing review decision).1
  · exact hstays.isPlaced hc

/-- A new conversation stands at the entry of the root. -/
theorem opened_isPlaced (hg : g.IsClosed) (context : Dict Json) :
    (opened g ((g.area? .root).elim "" Area.entry) context).IsPlaced g := by
  obtain ⟨root, hroot⟩ := Graph.exists_area?_iff.2 hg.root
  have hentry := (hg.areas root (Graph.area?_mem hroot)).entry
  refine ⟨⟨rfl, rfl⟩, ⟨root, hroot, ?_⟩, trivial⟩
  rwa [hroot]

/-- Opening a conversation always succeeds. -/
theorem start_isPlaced (e : Engine) (hg : g.IsClosed) (context : Dict Json) :
    (e.start g context).conversation.IsPlaced g ∧ ∃ o, (e.start g context).result = .ok o :=
  advance_isPlaced hg (opened_isPlaced hg context) false {} .noSignal

/-! ### Newer versions -/

theorem any_contains_iff {next : Graph} {scope : ScopeId} {id : NodeId} :
    (next.area? scope).any (·.contains id) = true ↔ next.HasNode scope id := by
  rw [Option.any_eq_true]
  rfl

/-- Frames are checked, outermost first, below frames that are there. -/
theorem checkFrames_eq_ok {next : Graph} {outer inner : List Frame}
    (houter : next.HasFrames outer) :
    checkFrames next (stackScope outer) inner = .ok () ↔
      next.HasFrames (inner.reverse ++ outer) := by
  induction inner generalizing outer with
  | nil => exact ⟨fun _ => houter, fun _ => rfl⟩
  | cons f r ih =>
    have hframe : ((next.area? (stackScope outer)).any (·.contains f.caller) &&
        (next.area? f.scope).isSome) = true ↔ next.HasFrames (f :: outer) := by
      rw [Bool.and_eq_true, any_contains_iff, Option.isSome_iff_exists, Graph.exists_area?_iff]
      exact ⟨fun h => ⟨h.2, h.1, houter⟩, fun h => ⟨h.2.1, h.1⟩⟩
    rw [checkFrames, List.reverse_cons, List.append_assoc, List.singleton_append]
    split_ifs with hf
    · exact ih (hframe.1 hf)
    · refine ⟨nofun, fun h => absurd (hframe.2 h.of_append) hf⟩

/-- A conversation moves to a newer version of its flow when its position is there, and only
then. -/
theorem repin_eq_ok {next : Graph} {c' : Conversation} :
    repin next c = .ok c' ↔
      (next.id = c.flow ∧ c.version < next.version ∧ c.position.LiesIn next) ∧
        c' = { c with version := next.version } := by
  have hroot : next.HasFrames [] := trivial
  have hframes : checkFrames next .root c.position.stack.reverse = .ok () ↔
      next.HasFrames (c.position.stack.reverse.reverse ++ []) := checkFrames_eq_ok hroot
  rw [List.append_nil, List.reverse_reverse] at hframes
  unfold repin checkRepin
  constructor
  · intro h
    -- the checks are undone in the order in which they are made
    obtain ⟨⟨⟩, hcheck, h⟩ := bind_eq_ok.1 h
    obtain ⟨hid, hcheck⟩ := ite_throw_eq_ok.1 hcheck
    obtain ⟨hnewer, hcheck⟩ := ite_throw_eq_ok.1 hcheck
    obtain ⟨⟨⟩, hstack, hcheck⟩ := bind_eq_ok.1 hcheck
    refine ⟨⟨not_not.1 hid, not_le.1 hnewer, ?_, hframes.1 hstack⟩, (pure_eq_ok.1 h).symm⟩
    split_ifs at hcheck with hnode
    exact any_contains_iff.1 hnode
  · rintro ⟨⟨hid, hnewer, hposition⟩, rfl⟩
    have hnode := any_contains_iff.2 hposition.node
    refine bind_eq_ok.2 ⟨(), ?_, rfl⟩
    refine ite_throw_eq_ok.2 ⟨not_not.2 hid, ite_throw_eq_ok.2 ⟨not_le.2 hnewer, ?_⟩⟩
    refine bind_eq_ok.2 ⟨(), hframes.2 hposition.frames, ?_⟩
    exact if_pos hnode

theorem repin_isPlaced {next : Graph} {c' : Conversation} (h : repin next c = .ok c') :
    c'.IsPlaced next := by
  obtain ⟨⟨hid, -, hposition⟩, rfl⟩ := repin_eq_ok.1 h
  exact ⟨⟨hid, rfl⟩, hposition⟩

/-! ### Runs -/

theorem Reaches.isPlaced {versions : Set Graph} (hversions : ∀ g ∈ versions, g.IsCompiled)
    (h : e.Reaches versions g c) : c.IsPlaced g := by
  induction h with
  | start context hg => exact (start_isPlaced e (hversions _ hg).isClosed context).1
  | call k hreach ih => exact call_isPlaced (hversions _ hreach.mem).isClosed ih k
  | repin _ hnext hr _ => exact repin_isPlaced hr

/-- A turn is always served. -/
theorem turn_result (hg : g.IsClosed) (hc : c.IsPlaced g) (input : TurnInput) :
    ∃ o, (e.turn g c input).result = .ok o := by
  rcases turn_cases hc.toPinnedTo input with ⟨c₁, passing, review, decision, hd, hr⟩ | hstays
  · rw [hr]
    exact (advance_isPlaced hg (hd.isPlaced hc) passing review decision).2
  · generalize e.turn g c input = r at hstays ⊢
    cases hstays with
    | idle | suspended | held => exact ⟨_, rfl⟩

/-- Going on fails when nobody was called, or with a node that the scope does not have. -/
theorem resume_fault (hg : g.IsClosed) (hc : c.IsPlaced g) {target : Option NodeId}
    {fault : ConversationFault} (h : (e.resume g c target).result = .error fault) :
    ((∀ reason, c.status ≠ .escalated reason) ∧ fault = .notEscalated) ∨
      ∃ id, target = some id ∧ ¬ g.HasNode c.scope id ∧ fault = .notInScope id c.scope := by
  rcases resume_cases (e := e) hc.toPinnedTo target with
    ⟨c₁, passing, review, decision, hd, hr⟩ | hstays
  · obtain ⟨o, ho⟩ := (advance_isPlaced (e := e) hg (hd.isPlaced hc) passing review decision).2
    rw [hr, ho] at h
    cases h
  · generalize e.resume g c target = r at hstays h
    cases hstays with
    | notEscalated hs =>
      cases h
      exact .inl ⟨hs, rfl⟩
    | missingScope _ ha =>
      obtain ⟨area, harea, -⟩ := hc.position.node
      -- the current scope exists, so this cannot be why
      rw [Conversation.scope, harea] at ha
      cases ha
    | notInScope _ ha hcontains =>
      cases h
      refine .inr ⟨_, rfl, ?_, rfl⟩
      rintro ⟨area, harea, hin⟩
      rw [harea] at ha
      cases ha
      rw [hin] at hcontains
      cases hcontains

/-- Choosing a path fails when no fork offers it. -/
theorem overridePath_fault (hg : g.IsCompiled) (hc : c.IsPlaced g) {path : PathId}
    {fault : ConversationFault} (h : (e.overridePath g c path).result = .error fault) :
    ¬ g.flow.Offers path ∧ fault = .pathNotOffered path g.id := by
  rcases overridePath_cases (e := e) hc.toPinnedTo path with
    ⟨c₁, passing, review, decision, hd, hr⟩ | hstays
  · obtain ⟨o, ho⟩ :=
      (advance_isPlaced (e := e) hg.isClosed (hd.isPlaced hc) passing review decision).2
    rw [hr, ho] at h
    cases h
  · generalize e.overridePath g c path = r at hstays h
    cases hstays with
    | notOffered hnone =>
      cases h
      refine ⟨fun hoffers => ?_, rfl⟩
      rw [hg.pathScopes_of_offers hoffers] at hnone
      cases hnone
    | overridden => cases h

/-- **No conversation gets lost.**  Opening a conversation and taking a turn always succeed; all
other calls fail for the reasons that are meant for the caller only. -/
theorem reaches_placed (e : Engine) {versions : Set Graph}
    (hversions : ∀ g ∈ versions, g.IsCompiled) :
    (∀ g ∈ versions, ∀ context, ∃ o, (e.start g context).result = .ok o) ∧
    ∀ g c, e.Reaches versions g c →
      c.IsPlaced g ∧
      (∀ input, ∃ o, (e.turn g c input).result = .ok o) ∧
      (∀ target fault, (e.resume g c target).result = .error fault →
        ((∀ reason, c.status ≠ .escalated reason) ∧ fault = .notEscalated) ∨
          ∃ id, target = some id ∧ ¬ g.HasNode c.scope id ∧ fault = .notInScope id c.scope) ∧
      (∀ path fault, (e.overridePath g c path).result = .error fault →
        ¬ g.flow.Offers path ∧ fault = .pathNotOffered path g.id) ∧
      ∀ next ∈ versions, (∃ c', repin next c = .ok c') ↔
        next.id = c.flow ∧ c.version < next.version ∧ c.position.LiesIn next := by
  refine ⟨fun g hg context => (start_isPlaced e (hversions g hg).isClosed context).2,
    fun g c h => ?_⟩
  have hg := hversions g h.mem
  have hc := h.isPlaced hversions
  refine ⟨hc, fun input => turn_result hg.isClosed hc input,
    fun target fault => resume_fault hg.isClosed hc, fun path fault => overridePath_fault hg hc,
      fun next _ => ⟨?_, ?_⟩⟩
  · rintro ⟨c', hr⟩
    exact (repin_eq_ok.1 hr).1
  · intro hnext
    exact ⟨_, repin_eq_ok.2 ⟨hnext, rfl⟩⟩

/-- A conversation that waits at the first question of a flow can be moved to its next version. -/
theorem reaches_placed_detour :
    (∀ g ∈ ({Samples.detourGraph 1, Samples.detourGraph 2} : Set Graph), g.IsCompiled) ∧
      ∃ c', repin (Samples.detourGraph 2)
        ((Engine.ofSettings {}).run (Samples.detourGraph 1) [] []) = .ok c' := by
  have hversions : ∀ g ∈ ({Samples.detourGraph 1, Samples.detourGraph 2} : Set Graph),
      g.IsCompiled := by
    rintro g (rfl | rfl)
    · exact Samples.detourGraph_isCompiled 1
    · exact Samples.detourGraph_isCompiled 2
  have hreach := reaches_run (e := .ofSettings {})
      (Set.mem_insert (Samples.detourGraph 1) {Samples.detourGraph 2})
    [] []
  obtain ⟨-, -, -, -, hrepin⟩ := (reaches_placed (.ofSettings {}) hversions).2 _ _ hreach
  refine ⟨hversions, (hrepin (Samples.detourGraph 2) (Set.mem_insert_of_mem _ rfl)).2
    ⟨rfl, by decide, ?_⟩⟩
  exact ⟨⟨_, rfl, rfl⟩, trivial⟩

end Engine

theorem Graph.Reaches.isPlaced (hg : g.IsCompiled) {c : Conversation} (h : g.Reaches c) :
    c.IsPlaced g := by
  induction h with
  | start e context => exact (Engine.start_isPlaced e hg.isClosed context).1
  | call e k _ ih => exact Engine.call_isPlaced hg.isClosed ih k

end Parley

import Parley.Proofs.Conversation.Budget
import Parley.Proofs.Graph.Rank

/-!
# Walks that come to rest

Where nothing is re-entrant, every walk comes to rest by itself, and how many steps it takes at most
can be read off the flow.  A walk goes to nodes of lower rank, but before that it goes through the
subgraphs that are entered on the way, and on the way out of one it takes up its caller again.  So
the steps are counted that are left at the current node and at the callers of all frames around it.

* `Walker.Rests`, `Walker.Moves`, `Walker.step_cases`: what a step does to a position;
* `Graph.HasEntered`: frames are entered from nodes that lead into them;
* `walkBound`, `Graph.Ranks.stepsLeft`: the steps that are left;
* `Engine.SetsOut`, `Engine.ComesToRest`, `Engine.walks_comeToRest`.
-/

namespace Parley

variable {g : Graph}

/-! ### Steps -/

namespace Walker

variable {w : Walker} {area : Area} {s : Step}

/-- At the current node a walk comes to rest: it waits for input, ends, or leaves the rest to a
person. -/
inductive Rests (g : Graph) (w : Walker) : Status → Prop
  | wait {area : Area} {s : Step} : look g w.conversation = .ok (area, s) →
      w.decide g area s = .wait →
      Rests g w .awaitingInput
  | finish {area : Area} {s : Step} : look g w.conversation = .ok (area, s) →
      w.decide g area s = .finish →
      Rests g w (.terminal w.conversation.position.node)
  | escalate {area : Area} {s : Step} : look g w.conversation = .ok (area, s) →
      w.decide g area s = .escalate →
      Rests g w (.escalated (.node w.conversation.position.node))
  | deadEnd {area : Area} {s : Step} : look g w.conversation = .ok (area, s) →
      w.decide g area s = .deadEnd →
      Rests g w (.escalated (.deadEnd w.conversation.position.node))

theorem Rests.step_eq {status : Status} (h : w.Rests g status) :
    ∃ v, w.step g = .rested v ∧ v.conversation = { w.conversation with status := status } := by
  cases h with
  | wait hlook hm | finish hlook hm | escalate hlook hm | deadEnd hlook hm =>
    unfold step
    rw [hlook]
    simp only [hm, make]
    exact ⟨_, rfl, by simp⟩

/-- How a step changes a position: along a link, into a scope, or out of one to its caller.  The
last argument says that the node has been run already. -/
inductive Moves (g : Graph) : Position → Bool → Position → Bool → Prop
  | goto {p : Position} {passing : Bool} {id : NodeId} : g.Leads p.scope p.node id →
      Moves g p passing { p with node := id } false
  | enter {p : Position} {inner : ScopeId} {entry : NodeId} : g.Enters p.scope p.node inner →
      g.HasNode inner entry → Moves g p false ⟨entry, ⟨inner, p.node⟩ :: p.stack⟩ false
  | leave {node : NodeId} {f : Frame} {r : List Frame} {passing : Bool} :
      Moves g ⟨node, f :: r⟩ passing ⟨f.caller, r⟩ true

/-- No scope is entered from a node that has been run already. -/
theorem passing_of_decide_eq_enter {inner : ScopeId} (h : w.decide g area s = .enter inner) :
    w.passing = false := by
  by_contra hpassing
  rw [decide_eq, if_pos (by simpa using hpassing), onward] at h
  rcases Move.ofLink_cases (area.choose s.id g.predicates w.conversation.environment) with
    ⟨_, hm⟩ | hm | ⟨-, hm⟩ <;> rw [hm] at h <;> cases h

/-- **A walk comes to rest at a node, or a step changes its position.** -/
theorem step_cases (hg : g.IsClosed) (hw : w.conversation.position.LiesIn g) :
    (∃ status, w.Rests g status) ∨ ∃ v, w.step g = .moved v ∧
      Moves g w.conversation.position w.passing v.conversation.position v.passing := by
  obtain ⟨area, s, hlook⟩ := exists_look hw
  obtain ⟨harea, hs⟩ := look_eq_ok hlook
  have hstep : w.step g = make g (w.note g s) (w.decide g area s) := by rw [step, hlook]
  have hwithin := step_liesIn hg hw
  rw [hstep] at hwithin ⊢
  cases hm : w.decide g area s with
  | wait => exact .inl ⟨_, .wait hlook hm⟩
  | finish => exact .inl ⟨_, .finish hlook hm⟩
  | escalate => exact .inl ⟨_, .escalate hlook hm⟩
  | deadEnd => exact .inl ⟨_, .deadEnd hlook hm⟩
  | goto id =>
    obtain ⟨l, hl, htarget⟩ := decide_eq_goto hm
    obtain ⟨hmem, hsource⟩ := Area.mem_outgoing.1 hl
    have hleads : g.Leads w.conversation.position.scope w.conversation.position.node id :=
      ⟨area, harea, by rw [Area.contains, hs]; rfl, l, hmem,
        hsource.trans (Area.step?_id hs), htarget⟩
    refine .inr ⟨_, rfl, ?_⟩
    rw [setPosition_conversation, note_conversation]
    exact note_passing w g s ▸ .goto hleads
  | enter inner =>
    have henters : g.Enters w.conversation.position.scope w.conversation.position.node inner :=
      ⟨area, s, harea, hs, (runs_of_decide_eq_enter hm).mem_targets⟩
    rw [hm] at hwithin
    simp only [make] at hwithin ⊢
    cases hinner : g.area? inner with
    | none =>
      rw [hinner] at hwithin
      exact hwithin.elim
    | some a =>
      simp only [hinner, Progress.Within, setPosition_conversation, note_conversation] at hwithin ⊢
      refine .inr ⟨_, rfl, ?_⟩
      rw [passing_of_decide_eq_enter hm]
      exact note_passing w g s ▸ .enter henters hwithin.node
  | leave =>
    rw [hm] at hwithin
    simp only [make, note_conversation] at hwithin ⊢
    cases hp : w.conversation.position with
    | mk node stack =>
      cases stack with
      | nil =>
        rw [hp] at hwithin
        exact hwithin.elim
      | cons f r => exact .inr ⟨_, rfl, .leave⟩

end Walker

/-! ### Where frames lead -/

theorem Graph.Enters.hasNode {scope inner : ScopeId} {id : NodeId} (h : g.Enters scope id inner) :
    g.HasNode scope id := by
  obtain ⟨a, s, ha, hs, -⟩ := h
  exact ⟨a, ha, by rw [Area.contains, hs]; rfl⟩

/-- Frames, innermost first, of which each one is for a scope that its caller enters. -/
def Graph.HasEntered (g : Graph) : List Frame → Prop
  | [] => True
  | f :: r => g.Enters (stackScope r) f.caller f.scope ∧ g.HasEntered r

theorem Walker.Moves.hasEntered {p q : Position} {b b' : Bool} (h : Moves g p b q b')
    (hp : g.HasEntered p.stack) : g.HasEntered q.stack := by
  cases h with
  | goto => exact hp
  | enter henters => exact ⟨henters, hp⟩
  | leave => exact hp.2

namespace Engine

variable {e : Engine} {c : Conversation}

theorem advance_hasEntered (hg : g.IsClosed) (hc : c.position.LiesIn g)
    (hentered : g.HasEntered c.position.stack) (passing : Bool) (review : Review)
    (path : PathDecision) :
    g.HasEntered (e.advance g c passing review path).conversation.position.stack := by
  refine (walk_within (P := fun w => w.conversation.position.LiesIn g ∧
    g.HasEntered w.conversation.position.stack)
    ?_ (fun _ h => h) (w := ⟨c, {}, passing⟩) ⟨hc, hentered⟩).2.2
  rintro w ⟨hw, hstack⟩
  have hwithin := Walker.step_liesIn hg hw
  rcases Walker.step_cases hg hw with ⟨status, hrests⟩ | ⟨v, hstep, hmoves⟩
  · obtain ⟨v, hstep, hv⟩ := hrests.step_eq
    rw [hstep] at hwithin ⊢
    exact ⟨hwithin, by rw [hv]; exact hstack⟩
  · rw [hstep] at hwithin ⊢
    exact ⟨hwithin, hmoves.hasEntered hstack⟩

theorem Departs.stack_eq {k : Call} {c₁ : Conversation} {passing : Bool} {review : Review}
    (h : e.Departs g c k c₁ passing review) : c₁.position.stack = c.position.stack := by
  cases h <;> rfl

theorem Stays.position_eq {k : Call} {r : Reply} (h : e.Stays g c k r) :
    r.conversation.position = c.position := by
  cases h <;> rfl

end Engine

theorem Graph.Reaches.hasEntered (hg : g.IsCompiled) {c : Conversation} (h : g.Reaches c) :
    g.HasEntered c.position.stack := by
  induction h with
  | start e context =>
    exact Engine.advance_hasEntered hg.isClosed
      (Engine.opened_isPlaced hg.isClosed context).position trivial _ _ _
  | call e k hreach ih =>
    have hc := hreach.isPlaced hg
    rcases Engine.call_cases (e := e) hc.toPinnedTo k with
      ⟨c₁, passing, review, decision, hd, hr⟩ | hstays
    · rw [hr]
      exact Engine.advance_hasEntered hg.isClosed (hd.isPlaced hc).position (hd.stack_eq ▸ ih)
        passing review decision
    · rwa [hstays.position_eq]

/-! ### Steps that are left -/

/-- How many steps a walk through a scope takes at most, with so many nodes in each scope and so
many ranks of scopes up to this one: each node may be passed once, run once, and walked through the
scope that it enters. -/
def walkBound (nodes : ℕ) : ℕ → ℕ
  | 0 => 0
  | ranks + 1 => nodes * (walkBound nodes ranks + 2)

theorem walkBound_mono {nodes : ℕ} : Monotone (walkBound nodes) := by
  refine monotone_nat_of_le_succ fun ranks => ?_
  induction ranks with
  | zero => exact Nat.zero_le _
  | succ ranks ih => exact Nat.mul_le_mul_left nodes (Nat.add_le_add_right ih 2)

namespace Graph.Ranks

variable {nodes : ℕ} (ranks : g.Ranks nodes)

/-- The steps for one node of a scope: through the scope that it enters, into this scope, and past
the node. -/
def cost (scope : ScopeId) : ℕ := walkBound nodes (ranks.ofScope scope) + 2

/-- The steps that are left in a scope at one of its nodes, which may have been run already. -/
def stepsAt (scope : ScopeId) (id : NodeId) (passing : Bool) : ℕ :=
  ranks.ofNode scope id * ranks.cost scope + if passing then 1 else ranks.cost scope

/-- The steps that are left at the callers of frames. -/
def stepsAround : List Frame → ℕ
  | [] => 0
  | f :: r => ranks.stepsAt (stackScope r) f.caller true + stepsAround r

/-- The steps that are left at a position. -/
def stepsLeft (p : Position) (passing : Bool) : ℕ :=
  ranks.stepsAt p.scope p.node passing + ranks.stepsAround p.stack

variable {ranks} {scope inner : ScopeId} {id id' : NodeId} {b b' : Bool}

theorem stepsAt_pos : 0 < ranks.stepsAt scope id b := by
  unfold stepsAt cost
  split_ifs <;> omega

/-- A node of lower rank takes fewer steps than to pass the current one. -/
theorem stepsAt_lt (h : ranks.ofNode scope id' < ranks.ofNode scope id) :
    ranks.stepsAt scope id' false < ranks.stepsAt scope id b := by
  have hmul : (ranks.ofNode scope id' + 1) * ranks.cost scope ≤ ranks.ofNode scope id *
      ranks.cost scope :=
    Nat.mul_le_mul_right _ h
  have hone : 0 < if b then 1 else ranks.cost scope := by
    unfold cost
    split_ifs <;> omega
  rw [Nat.succ_mul] at hmul
  unfold stepsAt
  simp only [Bool.false_eq_true, if_false]
  omega

/-- To pass a node and to walk through the scope that it enters takes fewer steps than to run it. -/
theorem stepsAt_run (h : ranks.ofScope inner < ranks.ofScope scope) :
    ranks.stepsAt scope id true + walkBound nodes (ranks.ofScope inner + 1) <
      ranks.stepsAt scope id false := by
  have hmono : walkBound nodes (ranks.ofScope inner + 1) ≤ walkBound nodes (ranks.ofScope scope) :=
    walkBound_mono h
  simp only [stepsAt, cost, if_true, Bool.false_eq_true, if_false]
  omega

/-- In a scope no more steps are left than a walk through it takes. -/
theorem stepsAt_le (h : g.HasNode scope id) :
    ranks.stepsAt scope id b ≤ walkBound nodes (ranks.ofScope scope + 1) := by
  obtain ⟨a, ha, hid⟩ := h
  have hmul : (ranks.ofNode scope id + 1) * ranks.cost scope ≤ nodes * ranks.cost scope :=
    Nat.mul_le_mul_right _ (ranks.node_lt ha hid)
  have hpart : (if b then 1 else ranks.cost scope) ≤ ranks.cost scope := by
    unfold cost
    split_ifs <;> omega
  rw [Nat.succ_mul] at hmul
  exact (Nat.add_le_add_left hpart _).trans hmul

/-- **Each step leaves fewer steps.** -/
theorem stepsLeft_lt {p q : Position} (h : Walker.Moves g p b q b') :
    ranks.stepsLeft q b' < ranks.stepsLeft p b := by
  cases h with
  | goto hleads => exact Nat.add_lt_add_right (stepsAt_lt (ranks.leads hleads)) _
  | @enter p inner entry henters hentry =>
    -- the caller is to be passed after the scope has been walked through
    have hrun : ranks.stepsAt p.scope p.node true + walkBound nodes (ranks.ofScope inner + 1) <
        ranks.stepsAt p.scope p.node false := stepsAt_run (ranks.enters henters)
    have hinner : ranks.stepsAt inner entry false ≤ walkBound nodes (ranks.ofScope inner + 1) :=
      stepsAt_le hentry
    have hleft : ranks.stepsLeft ⟨entry, ⟨inner, p.node⟩ :: p.stack⟩ false =
        ranks.stepsAt inner entry false +
          (ranks.stepsAt p.scope p.node true + ranks.stepsAround p.stack) := rfl
    rw [hleft, stepsLeft]
    omega
  | @leave node f r =>
    have hpos : 0 < ranks.stepsAt f.scope node b := stepsAt_pos
    have hleft : ranks.stepsLeft ⟨node, f :: r⟩ b = ranks.stepsAt f.scope node b +
        ranks.stepsLeft ⟨f.caller, r⟩ true :=
      rfl
    omega

/-- A walk through the innermost scope, and what is left around it, takes no more steps than a walk
through a scope of highest rank. -/
theorem stepsAround_le (hroot : ScopeId.root ∈ g.scopeIds) {frames : List Frame}
    (h : g.HasEntered frames) :
    walkBound nodes (ranks.ofScope (stackScope frames) + 1) + ranks.stepsAround frames ≤
      walkBound nodes g.areas.length := by
  induction frames with
  | nil => exact walkBound_mono (ranks.scope_lt hroot)
  | cons f r ih =>
    obtain ⟨henters, hr⟩ := h
    have hrun : ranks.stepsAt (stackScope r) f.caller true +
        walkBound nodes (ranks.ofScope f.scope + 1) <
        ranks.stepsAt (stackScope r) f.caller false := stepsAt_run (ranks.enters henters)
    have hcaller : ranks.stepsAt (stackScope r) f.caller false ≤
        walkBound nodes (ranks.ofScope (stackScope r) + 1) := stepsAt_le henters.hasNode
    have hrest := ih hr
    rw [stepsAround, stackScope]
    omega

theorem stepsLeft_le (hroot : ScopeId.root ∈ g.scopeIds) {p : Position} (hp : p.LiesIn g)
    (hentered : g.HasEntered p.stack) : ranks.stepsLeft p b ≤ walkBound nodes g.areas.length :=
  (Nat.add_le_add_right (stepsAt_le hp.node) _).trans (stepsAround_le hroot hentered)

end Graph.Ranks

/-! ### Walks -/

namespace Walker

variable {nodes : ℕ} {w : Walker}

/-- A walk comes to rest before it has made as many steps as are left. -/
theorem exists_rests (hg : g.IsClosed) (ranks : g.Ranks nodes)
    (hw : w.conversation.position.LiesIn g) {n : ℕ}
    (hn : ranks.stepsLeft w.conversation.position w.passing ≤ n) :
    ∃ m < n, ∃ v status, w.after? g m = some v ∧ v.Rests g status := by
  induction n generalizing w with
  | zero =>
    have hpos : 0 <
        ranks.stepsAt w.conversation.position.scope w.conversation.position.node w.passing :=
      Graph.Ranks.stepsAt_pos
    rw [Graph.Ranks.stepsLeft] at hn
    omega
  | succ n ih =>
    rcases step_cases hg hw with ⟨status, hrests⟩ | ⟨v, hstep, hmoves⟩
    · exact ⟨0, n.succ_pos, w, status, rfl, hrests⟩
    · have hv := step_liesIn hg hw
      rw [hstep] at hv
      have hlt : ranks.stepsLeft v.conversation.position v.passing <
          ranks.stepsLeft w.conversation.position w.passing := Graph.Ranks.stepsLeft_lt hmoves
      obtain ⟨m, hm, u, status, hafter, hrests⟩ := ih hv (by omega)
      refine ⟨m + 1, Nat.succ_lt_succ hm, u, status, ?_, hrests⟩
      rw [after?, hstep]
      exact hafter

/-- The walk ends where it comes to rest. -/
theorem walk_of_rests {m n : ℕ} {v : Walker} {status : Status} (hm : m < n)
    (hafter : w.after? g m = some v) (hrests : v.Rests g status) :
    (walk g n w).2 = none ∧ (walk g n w).1.conversation =
      { v.conversation with status := status } := by
  obtain ⟨u, hstep, hu⟩ := hrests.step_eq
  obtain ⟨k, rfl⟩ : ∃ k, n = m + (k + 1) := ⟨n - m - 1, by omega⟩
  rw [walk_add hafter, walk, hstep]
  exact ⟨rfl, hu⟩

/-- A walk comes to rest, or it is cut. -/
theorem rests_or_after? (hg : g.IsClosed) (hw : w.conversation.position.LiesIn g) (n : ℕ) :
    (∃ m < n, ∃ v status, w.after? g m = some v ∧ v.Rests g status) ∨ ∃ v,
      w.after? g n = some v := by
  induction n generalizing w with
  | zero => exact .inr ⟨w, rfl⟩
  | succ n ih =>
    rcases step_cases hg hw with ⟨status, hrests⟩ | ⟨v, hstep, -⟩
    · exact .inl ⟨0, n.succ_pos, w, status, rfl, hrests⟩
    · have hv := step_liesIn hg hw
      rw [hstep] at hv
      simp only [after?, hstep]
      rcases ih hv with ⟨m, hm, u, status, hafter, hrests⟩ | hcut
      · exact .inl ⟨m + 1, Nat.succ_lt_succ hm, u,
          status, by simpa only [after?, hstep] using hafter, hrests⟩
      · exact .inr hcut

end Walker

/-- How many steps a walk through a flow takes at most. -/
def Flow.walkBound (f : Flow) : ℕ := Parley.walkBound f.nodeCount f.scopes.length

namespace Engine

variable {e : Engine} {c : Conversation} {passing : Bool}

/-- The walks that open a conversation, and those that calls go on with on a conversation that can
be reached, perhaps past the current node. -/
inductive SetsOut (e : Engine) (g : Graph) : Conversation → Bool → Prop
  | start (context : Dict Json) :
      SetsOut e g (opened g ((g.area? .root).elim "" Area.entry) context) false
  | call {c : Conversation} {k : Call} {c₁ : Conversation} {passing : Bool} {review : Review} :
      g.Reaches c →
      e.Departs g c k c₁ passing review → SetsOut e g c₁ passing

/-- Going on from a conversation ends where the conversation comes to rest, and not because too many
nodes have been passed. -/
def ComesToRest (e : Engine) (g : Graph) (c : Conversation) (passing : Bool) : Prop :=
  ∃ m < e.traversal.maxAutoSteps, ∃ w status, Walker.after? g m ⟨c, {}, passing⟩ = some w ∧
    w.Rests g status ∧
    ∀ review path, ∃ o, e.advance g c passing review path =
      ⟨{ w.conversation with status := status }, .ok o⟩

theorem SetsOut.liesIn (hg : g.IsCompiled) (h : e.SetsOut g c passing) :
    c.position.LiesIn g ∧ g.HasEntered c.position.stack := by
  cases h with
  | start context => exact ⟨(opened_isPlaced hg.isClosed context).position, trivial⟩
  | call hreach hd =>
    exact ⟨(hd.isPlaced (hreach.isPlaced hg)).position, hd.stack_eq ▸ hreach.hasEntered hg⟩

/-- **Walks come to rest.**  Where nothing in a flow is re-entrant, there is a bound that no walk
ever reaches. -/
theorem walks_comeToRest {host : Host} {f : Flow} (hg : host.compile f = .ok g) (hf : f.IsPlain)
    (he : f.walkBound ≤ e.traversal.maxAutoSteps) (h : e.SetsOut g c passing) :
    e.ComesToRest g c passing := by
  have hcompiled : g.IsCompiled := ⟨host, f, hg⟩
  have hclosed := hcompiled.isClosed
  obtain ⟨ranks⟩ := Host.nonempty_ranks hg hf
  obtain ⟨hc, hentered⟩ := h.liesIn hcompiled
  have hleft : ranks.stepsLeft c.position passing ≤ e.traversal.maxAutoSteps := by
    have hle : ranks.stepsLeft c.position passing ≤ Parley.walkBound f.nodeCount g.areas.length :=
      Graph.Ranks.stepsLeft_le hclosed.root hc hentered
    rw [← (Host.compile_eq_ok hg).2.2.length_eq] at hle
    exact hle.trans he
  obtain ⟨m, hm, w, status, hafter, hrests⟩ :=
    Walker.exists_rests (w := ⟨c, {}, passing⟩) hclosed ranks hc hleft
  obtain ⟨hfault, hconversation⟩ := Walker.walk_of_rests hm hafter hrests
  refine ⟨m, hm, w, status, hafter, hrests, fun review path => ?_⟩
  have hresult : (e.advance g c passing review path).result = .ok _ := advance_result hfault
  rw [← hconversation]
  exact ⟨_, congrArg (Reply.mk _) hresult⟩

end Engine

namespace Samples

/-- The turn that answers the question of the detour goes through the subgraph and comes to rest. -/
theorem detour_comesToRest :
    Host.builtin.compile (detour 1) = .ok (detourGraph 1) ∧ (detour 1).IsPlain ∧
      (detour 1).walkBound = 40 ∧
      (Engine.ofSettings {}).ComesToRest (detourGraph 1)
        ((Engine.ofSettings {}).answered (detourGraph 1) detourStart readyTurn) false := by
  have hplain : (detour 1).IsPlain := by
    unfold Flow.IsPlain
    decide
  have hbound : (detour 1).walkBound = 40 := by decide
  have hreach : (detourGraph 1).Reaches detourStart := .start (.ofSettings {}) []
  have hturn : (Engine.ofSettings {}).Departs (detourGraph 1) detourStart (.turn readyTurn)
      _ false _ :=
    .turn rfl rfl held_ready
  refine ⟨compile_detour 1, hplain, hbound, Engine.walks_comeToRest (compile_detour 1) hplain ?_
    (.call hreach hturn)⟩
  rw [hbound]
  decide

end Samples

end Parley

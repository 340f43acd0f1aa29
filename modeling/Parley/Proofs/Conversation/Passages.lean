import Parley.Proofs.Conversation.DeadEnds

/-!
# Actions are reported once

Where nothing is re-entrant, a conversation that goes on never comes back to an action that it has
reported, unless it is put at another node by hand or a walk is cut.  Each turn runs the node again
at which the conversation rests, and a retried escalation does so too; but no conversation rests at
an action.  What is left to walk grows less from action to action, and it is less still at the place
where the conversation rests.

* `Walker.reports`, `Reply.actions`, `walk_adds`, `walk_actions`: the actions of a walk, with the
  frames around them;
* `Walker.Rests.reports_eq`, `Walker.Rests.passing_or`: where walks come to rest;
* `Graph.Ranks.Descends`: actions at which less and less is left;
* `Engine.SetsOutFrom`, `Engine.IsUncut`: the walks of a run, none of which is cut;
* `Engine.actions_reported_once`.
-/

namespace Parley

variable {g : Graph}

/-! ### Reported actions -/

namespace Walker

variable {w v : Walker}

/-- Where an action is reported at a moment: the node, and the frames around it. -/
def reports (g : Graph) (w : Walker) : List Position :=
  match look g w.conversation with
  | .ok (_, s) => (w.noted g s).map (⟨·, w.conversation.position.stack⟩)
  | .error _ => []

/-- At a moment the current node is reported, if it is an action that is run. -/
theorem reports_cases (g : Graph) (w : Walker) :
    w.reports g = [] ∨ w.reports g = [w.conversation.position] ∧ w.passing = false ∧
      ∃ area s, look g w.conversation = .ok (area, s) ∧ s.node.kind = .action := by
  unfold reports
  cases hlook : look g w.conversation with
  | error fault => exact .inl rfl
  | ok found =>
    obtain ⟨area, s⟩ := found
    simp only [noted]
    split_ifs with hrun
    · rw [List.map_singleton, Area.step?_id (look_eq_ok hlook).2]
      exact .inr ⟨rfl, hrun.1, area, s, rfl, hrun.2.1⟩
    · exact .inl rfl

theorem make_trail (g : Graph) (w : Walker) (m : Move) : (w.make g m).walker.trail = w.trail := by
  cases m with
  | enter scope =>
    simp only [make]
    split <;> rfl
  | leave =>
    simp only [make]
    split <;> rfl
  | wait | goto | finish | escalate | deadEnd => rfl

/-- A step adds the action that is reported to the trail. -/
theorem step_actions (g : Graph) (w : Walker) :
    (w.step g).walker.trail.actions = w.trail.actions ++ (w.reports g).map Position.node := by
  unfold step reports
  cases look g w.conversation with
  | error fault => simp [Progress.walker]
  | ok found =>
    simp only [make_trail, note_actions, List.map_map]
    congr 1
    exact (List.map_id _).symm

end Walker

/-- What each step adds to a part of the trail, a walk adds at all its moments. -/
theorem walk_adds {β : Type} {p : Trail → List β} {added : Walker → List β}
    (hstep : ∀ w, p (w.step g).walker.trail = p w.trail ++ added w) (n : ℕ) (w : Walker) :
    p (walk g n w).1.trail = p w.trail ++ (moments g n w).flatMap added := by
  induction n generalizing w with
  | zero => simp [walk, moments, Walker.setStatus]
  | succ n ih =>
    have hw := hstep w
    unfold walk moments
    cases hs : w.step g with
    | moved v =>
      rw [hs] at hw
      simp only [ih v, List.flatMap_cons]
      rw [← List.append_assoc]
      exact congrArg (· ++ _) hw
    | rested v | failed fault v =>
      rw [hs] at hw
      simpa [Walker.Progress.walker] using hw

/-- The actions that a walk adds to the trail are those reported at its moments. -/
theorem walk_actions (g : Graph) (n : ℕ) (w : Walker) :
    (walk g n w).1.trail.actions =
      w.trail.actions ++ ((moments g n w).flatMap (Walker.reports g)).map Position.node := by
  rw [List.map_flatMap]
  exact walk_adds (p := Trail.actions) (Walker.step_actions g) n w

/-- The actions that a reply reports. -/
def Reply.actions (r : Reply) : List NodeId :=
  match r.result with
  | .ok o => o.trail.actions
  | .error _ => []

/-- The trail that a reply reports. -/
def Reply.trail (r : Reply) : Trail :=
  match r.result with
  | .ok o => o.trail
  | .error _ => {}

theorem Reply.actions_eq (r : Reply) : r.actions = r.trail.actions := by
  unfold actions trail
  split <;> rfl

/-! ### Where walks come to rest -/

namespace Walker

variable {w v : Walker} {area : Area} {s : Step} {status : Status}

/-- Where a link is taken and always found, no walk comes to rest. -/
theorem not_rests (hg : g.IsCompiled) (hlook : look g w.conversation = .ok (area, s))
    (hfinal : s.node.kind.isFinal = false) (honward : w.decide g area s = w.onward g area s) :
    ¬ w.Rests g status := by
  obtain ⟨ha, hs⟩ := look_eq_ok hlook
  obtain ⟨l, hl⟩ := hg.exists_choose (Graph.area?_mem ha) (Area.step?_mem hs) hfinal g.predicates
    w.conversation.environment
  rw [onward, hl] at honward
  intro hrests
  obtain ⟨_, hstep, -⟩ := hrests.step_eq
  rw [step, hlook] at hstep
  simp only [honward] at hstep
  rcases Move.ofLink_cases (some l) with ⟨id, hm⟩ | hm | ⟨hnone, -⟩
  · rw [hm] at hstep
    cases hstep
  · rw [hm, make] at hstep
    split at hstep <;> cases hstep
  · cases hnone

/-- **No walk comes to rest at an action.** -/
theorem Rests.reports_eq (hg : g.IsCompiled) (h : w.Rests g status) : w.reports g = [] := by
  rcases w.reports_cases g with hnone | ⟨-, -, area, s, hlook, hkind⟩
  · exact hnone
  · refine absurd h (not_rests hg hlook (by rw [hkind]; rfl) ?_)
    rw [decide_eq]
    split_ifs <;> simp [run, hkind]

theorem Rests.flatMap_reports (hg : g.IsCompiled) (h : w.Rests g status) (n : ℕ) :
    (moments g n w).flatMap (reports g) = [] := by
  obtain ⟨v, hstep, -⟩ := h.step_eq
  cases n with
  | zero => rfl
  | succ n => simp [moments, hstep, h.reports_eq hg]

/-- A walk makes no steps where it has come to rest. -/
theorem Rests.after?_eq_none {m n : ℕ} (h : v.Rests g status) (hm : m < n)
    (hafter : w.after? g m = some v) :
    w.after? g n = none := by
  induction m generalizing w n with
  | zero =>
    cases hafter
    obtain ⟨n, rfl⟩ : ∃ k, n = k + 1 := ⟨n - 1, by omega⟩
    obtain ⟨u, hstep, -⟩ := h.step_eq
    simp only [after?, hstep]
  | succ m ih =>
    obtain ⟨n, rfl⟩ : ∃ k, n = k + 1 := ⟨n - 1, by omega⟩
    unfold after? at hafter ⊢
    split at hafter
    · exact ih (Nat.lt_of_succ_lt_succ hm) hafter
    · cases hafter

/-- After a step, a node that has been run already is one that a subgraph leads back to. -/
theorem returns_of_moved (hw : w.HasCallers g) (h : w.step g = .moved v)
    (hmoves : Moves g w.conversation.position w.passing v.conversation.position v.passing) :
    v.Returns g := by
  have hframes := step_hasCallers hw
  have hpath := (w.step_follows g).path_eq
  rw [h] at hframes hpath
  refine ⟨hframes, fun hpassing => ?_⟩
  rw [HasCallers] at hw
  rw [show v.conversation.path = w.conversation.path from hpath, Conversation.scope]
  rw [hpassing] at hmoves
  generalize w.conversation.position = p, w.passing = passing,
    v.conversation.position = q at hmoves hw
  cases hmoves with
  | leave => exact hw.1

/-- The first step of a walk that makes more steps. -/
theorem exists_moved (hg : g.IsClosed) (hw : w.conversation.position.LiesIn g) {m : ℕ}
    (hafter : w.after? g (m + 1) = some v) :
    ∃ u, w.step g = .moved u ∧ Moves g w.conversation.position w.passing
      u.conversation.position u.passing ∧
      u.after? g m = some v := by
  rcases step_cases hg hw with ⟨_, hrests⟩ | ⟨u, hstep, hmoves⟩
  · obtain ⟨u, hstep, -⟩ := hrests.step_eq
    simp only [after?, hstep] at hafter
    cases hafter
  · simp only [after?, hstep] at hafter
    exact ⟨u, hstep, hmoves, hafter⟩

/-- Where a walk comes to rest, the node has not been run already, unless the walk has not made a
step. -/
theorem Rests.passing_or (hg : g.IsCompiled) (hw : w.conversation.position.LiesIn g)
    (hcallers : w.HasCallers g) {m : ℕ} (hafter : w.after? g m = some v) (h : v.Rests g status) :
    v.passing = false ∨ m = 0 := by
  cases m with
  | zero => exact .inr rfl
  | succ m =>
    refine .inl (by_contra fun hpassing => ?_)
    rw [Bool.not_eq_false] at hpassing
    obtain ⟨u, hstep, hmoves, hafter⟩ := exists_moved hg.isClosed hw hafter
    have hreturns : v.Returns g :=
      after?_keeps (fun _ => step_returns) (returns_of_moved hcallers hstep hmoves) hafter
    -- what leads into a subgraph has a link to take
    obtain ⟨area, s, ha, hs, hkind, -⟩ := hreturns.caller hpassing
    exact not_rests hg (look_of_isCaller ha hs) (by rw [hkind]; rfl)
      (by rw [decide_eq, if_pos hpassing]) h

end Walker

/-! ### Actions at which less and less is left -/

namespace Graph.Ranks

variable {nodes : ℕ} {ranks : g.Ranks nodes} {reported : List Position} {left left' : ℕ}

/-- From each reported action to the next one, and from all of them to where a walk has got, less is
left. -/
structure Descends (ranks : g.Ranks nodes) (reported : List Position) (left : ℕ) : Prop where
  pairwise : reported.Pairwise fun p q => ranks.stepsLeft q false < ranks.stepsLeft p false
  lt : ∀ p ∈ reported, left < ranks.stepsLeft p false

variable (ranks left) in
theorem Descends.nil : ranks.Descends [] left := ⟨.nil, nofun⟩

theorem Descends.mono (h : ranks.Descends reported left) (hle : left' ≤ left) :
    ranks.Descends reported left' :=
  ⟨h.pairwise, fun p hp => hle.trans_lt (h.lt p hp)⟩

theorem Descends.nodup (h : ranks.Descends reported left) : reported.Nodup :=
  h.pairwise.imp fun hlt heq => (heq ▸ hlt).false

/-- To pass a node leaves no more than to run it. -/
theorem stepsLeft_le_run (p : Position) (b : Bool) :
    ranks.stepsLeft p b ≤ ranks.stepsLeft p false := by
  cases b with
  | false => exact le_rfl
  | true =>
    simp only [stepsLeft, stepsAt, cost, if_true, Bool.false_eq_true, if_false]
    omega

/-- A step may report the node that it goes on from. -/
theorem Descends.step {w v : Walker}
    (h : ranks.Descends reported (ranks.stepsLeft w.conversation.position w.passing))
    (hmoves : Walker.Moves g w.conversation.position w.passing v.conversation.position v.passing) :
    ranks.Descends (reported ++ w.reports g)
      (ranks.stepsLeft v.conversation.position v.passing) := by
  have hlt : ranks.stepsLeft v.conversation.position v.passing <
      ranks.stepsLeft w.conversation.position w.passing :=
    stepsLeft_lt hmoves
  rcases w.reports_cases g with hnone | ⟨hone, hpassing, -⟩
  · rw [hnone, List.append_nil]
    exact h.mono hlt.le
  · rw [hpassing] at h hlt
    rw [hone]
    refine ⟨List.pairwise_append.2 ⟨h.pairwise, List.pairwise_singleton _ _, fun p hp q hq => ?_⟩,
      fun p hp => ?_⟩
    · rw [List.mem_singleton.1 hq]
      exact h.lt p hp
    · rcases List.mem_append.1 hp with hp | hp
      · exact hlt.trans (h.lt p hp)
      · rwa [List.mem_singleton.1 hp]

/-- A walk that comes to rest reports actions at which less and less is left. -/
theorem Descends.walk (hg : g.IsCompiled) {w v : Walker} {status : Status} {m n : ℕ}
    (hw : w.conversation.position.LiesIn g)
    (h : ranks.Descends reported (ranks.stepsLeft w.conversation.position w.passing)) (hm : m < n)
    (hafter : w.after? g m = some v) (hrests : v.Rests g status) :
    ranks.Descends (reported ++ (moments g n w).flatMap (Walker.reports g))
      (ranks.stepsLeft v.conversation.position v.passing) := by
  induction m generalizing n w reported with
  | zero =>
    cases hafter
    rwa [hrests.flatMap_reports hg, List.append_nil]
  | succ m ih =>
    obtain ⟨k, rfl⟩ : ∃ k, n = k + 1 := ⟨n - 1, by omega⟩
    obtain ⟨u, hstep, hmoves, hafter⟩ := Walker.exists_moved hg.isClosed hw hafter
    have hu := Walker.step_liesIn hg.isClosed hw
    rw [hstep] at hu
    simp only [moments, hstep, List.flatMap_cons]
    rw [← List.append_assoc]
    exact ih hu (h.step hmoves) (Nat.lt_of_succ_lt_succ hm) hafter

end Graph.Ranks

/-! ### The walks of a run -/

namespace Engine

/-- The replies to calls one after the other. -/
def repliesTo (e : Engine) (g : Graph) : Conversation → List Call → List Reply
  | _, [] => []
  | c, k :: calls => e.call g c k :: repliesTo e g (e.call g c k).conversation calls

/-- The replies of a run. -/
def replies (e : Engine) (g : Graph) (context : Dict Json) (calls : List Call) : List Reply :=
  e.start g context :: e.repliesTo g (e.start g context).conversation calls

/-- The walks of a run: the one that opens the conversation, and those that the last one of some
calls goes on with. -/
inductive SetsOutFrom (e : Engine) (g : Graph) (context : Dict Json) :
    List Call → Conversation → Bool → Prop
  | start : SetsOutFrom e g context [] (opened g ((g.area? .root).elim "" Area.entry) context) false
  | call {calls : List Call} {k : Call} {c₁ : Conversation} {passing : Bool} {review : Review} :
      e.Departs g (e.run g context calls) k c₁ passing review →
        SetsOutFrom e g context (calls ++ [k]) c₁ passing

/-- None of the walks of a run is cut: each one comes to rest, or fails, before its steps are used
up. -/
def IsUncut (e : Engine) (g : Graph) (context : Dict Json) (calls : List Call) : Prop :=
  ∀ earlier, earlier <+: calls → ∀ c passing, e.SetsOutFrom g context earlier c passing →
    Walker.after? g e.traversal.maxAutoSteps ⟨c, {}, passing⟩ = none

variable {e : Engine} {c : Conversation} {context : Dict Json} {calls : List Call} {k : Call}

/-- A run reaches its conversation. -/
theorem graphReaches_run (e : Engine) (g : Graph) (context : Dict Json) (calls : List Call) :
    g.Reaches (e.run g context calls) :=
  run_induction context (.start e context) (fun _ k => .call e k) calls

theorem SetsOutFrom.setsOut {passing : Bool} (h : e.SetsOutFrom g context calls c passing) :
    e.SetsOut g c passing := by
  cases h with
  | start => exact .start context
  | call hd => exact .call (graphReaches_run e g context _) hd

theorem repliesTo_concat (e : Engine) (g : Graph) (c : Conversation) (calls : List Call)
    (k : Call) :
    e.repliesTo g c (calls ++ [k]) = e.repliesTo g c calls ++ [e.call g (e.after g c calls) k] := by
  induction calls generalizing c with
  | nil => rfl
  | cons first calls ih => exact congrArg (_ :: ·) (ih (e.call g c first).conversation)

theorem replies_concat (e : Engine) (g : Graph) (context : Dict Json) (calls : List Call)
    (k : Call) :
    e.replies g context (calls ++ [k]) =
      e.replies g context calls ++ [e.call g (e.run g context calls) k] := by
  rw [replies, repliesTo_concat]
  rfl

theorem IsUncut.of_concat (h : e.IsUncut g context (calls ++ [k])) : e.IsUncut g context calls :=
  fun earlier hearlier => h earlier (hearlier.trans (List.prefix_append calls [k]))

/-- A walk sets out from where the conversation is, unless it is resumed at another node. -/
theorem Departs.position_eq {c₁ : Conversation} {passing : Bool} {review : Review}
    (h : e.Departs g c k c₁ passing review) (hk : ∀ id, k ≠ .resume (some id)) :
    c₁.position = c.position := by
  cases h with
  | resumeAt => exact absurd rfl (hk _)
  | turn | resume | overridePath => rfl

/-- A call that does not walk leaves no trail. -/
theorem Stays.trail_eq (hc : c.PinnedTo g) (h : e.Stays g c k (e.call g c k)) :
    (e.call g c k).trail = {} := by
  generalize hr : e.call g c k = r at h ⊢
  cases h with
  | overridden hs hoffered =>
    -- an override that does not walk has an outcome as well
    rw [call, overridePath, pinned_eq hc, hoffered] at hr
    simp only [hs, Bool.false_eq_true, if_false] at hr
    rw [← hr]
    rfl
  | idle | suspended | held | notEscalated | missingScope | notInScope | notOffered => rfl

/-- A call that does not walk reports nothing. -/
theorem Stays.actions_eq (hc : c.PinnedTo g) (h : e.Stays g c k (e.call g c k)) :
    (e.call g c k).actions = [] := by
  rw [Reply.actions_eq, h.trail_eq hc]

/-- **A walk goes on down from all actions that have been reported.** -/
theorem advance_descends (hg : g.IsCompiled) {nodes : ℕ} {ranks : g.Ranks nodes}
    {reported : List Position} (hc : c.position.LiesIn g)
    (hcallers : g.HasCallers c.path c.position.stack) {passing : Bool}
    (huncut : Walker.after? g e.traversal.maxAutoSteps ⟨c, {}, passing⟩ = none)
    (h : ranks.Descends reported (ranks.stepsLeft c.position false)) (review : Review)
    (path : PathDecision) :
    (e.advance g c passing review path).actions =
        ((moments g e.traversal.maxAutoSteps ⟨c, {}, passing⟩).flatMap (Walker.reports g)).map
          Position.node ∧
      ranks.Descends (reported ++ (moments g e.traversal.maxAutoSteps ⟨c, {}, passing⟩).flatMap
        (Walker.reports g))
          (ranks.stepsLeft (e.advance g c passing review path).conversation.position false) := by
  rcases Walker.rests_or_after? (w := ⟨c, {}, passing⟩) hg.isClosed hc e.traversal.maxAutoSteps with
    ⟨m, hm, v, status, hafter, hrests⟩ | ⟨v, hafter⟩
  · obtain ⟨hfault, hconversation⟩ := Walker.walk_of_rests hm hafter hrests
    constructor
    · rw [Reply.actions, advance_result hfault]
      exact walk_actions g _ _
    · rw [advance_conversation, hconversation]
      have hwalk := (h.mono (Graph.Ranks.stepsLeft_le_run _ passing)).walk (w := ⟨c, {}, passing⟩)
          hg hc hm hafter
        hrests
      rcases hrests.passing_or (w := ⟨c, {}, passing⟩) hg hc hcallers hafter with hrun | rfl
      · rwa [hrun] at hwalk
      · -- the walk has not made a step, so nothing is reported and nothing has changed
        cases hafter
        rwa [hrests.flatMap_reports hg, List.append_nil]
  · cases huncut.symm.trans hafter

/-- A run that is neither resumed at another node nor has a walk that is cut goes on down from
action to action. -/
theorem exists_descends (hg : g.IsCompiled) {nodes : ℕ} (ranks : g.Ranks nodes)
    (hcalls : ∀ id, .resume (some id) ∉ calls) (huncut : e.IsUncut g context calls) :
    ∃ past, e.History g calls past (e.run g context calls) ∧
      (past.flatMap (Walker.reports g)).map Position.node =
        (e.replies g context calls).flatMap Reply.actions ∧
      ranks.Descends (past.flatMap (Walker.reports g))
          (ranks.stepsLeft (e.run g context calls).position false) := by
  induction calls using List.reverseRecOn with
  | nil =>
    obtain ⟨hactions, hdescends⟩ := advance_descends (c := opened g _ context) hg
      (opened_isPlaced hg.isClosed context).position trivial (huncut [] List.prefix_rfl _ _ .start)
        (.nil ranks _) {}
      .noSignal
    refine ⟨_, .start context, ?_, hdescends⟩
    rw [← hactions]
    simp [replies, repliesTo, Engine.start]
  | append_singleton calls k ih =>
    obtain ⟨past, hpast, hactions, hdescends⟩ :=
      ih (fun id hid => hcalls id (List.mem_append_left _ hid)) huncut.of_concat
    have hreaches := graphReaches_run e g context calls
    have hplaced := hreaches.isPlaced hg
    have hk : ∀ id, k ≠ .resume (some id) := fun id hk => hcalls id (by simp [hk])
    rw [replies_concat, List.flatMap_append, List.flatMap_singleton, ← hactions, run_concat]
    rcases call_cases (e := e) hplaced.toPinnedTo k with
      ⟨c₁, passing, review, decision, hd, hr⟩ | hstays
    · rw [← hd.position_eq hk] at hdescends
      obtain ⟨hmore, hfurther⟩ := advance_descends hg (hd.isPlaced hplaced).position
        (hd.hasCallers hreaches.hasCallers.2) (huncut _ List.prefix_rfl _ _ (.call hd)) hdescends
          review decision
      rw [hr]
      refine ⟨_, .walks hpast hd, ?_, ?_⟩
      · rw [List.flatMap_append, List.map_append, hmore]
      · rwa [List.flatMap_append]
    · refine ⟨past, .stays hpast hstays, ?_, ?_⟩
      · rw [hstays.actions_eq hplaced.toPinnedTo, List.append_nil]
      · rwa [hstays.position_eq]

/-- Where nothing in a flow is re-entrant, a bound that is large enough cuts no walk. -/
theorem isUncut_of_walkBound_le {host : Host} {f : Flow} (hg : host.compile f = .ok g)
    (hf : f.IsPlain) (he : f.walkBound ≤ e.traversal.maxAutoSteps) (context : Dict Json)
    (calls : List Call) :
    e.IsUncut g context calls := by
  have hcompiled : g.IsCompiled := ⟨host, f, hg⟩
  obtain ⟨ranks⟩ := Host.nonempty_ranks hg hf
  intro earlier _ c passing h
  obtain ⟨hc, hentered⟩ := h.setsOut.liesIn hcompiled
  have hleft : ranks.stepsLeft c.position passing ≤ Parley.walkBound f.nodeCount g.areas.length :=
    Graph.Ranks.stepsLeft_le hcompiled.isClosed.root hc hentered
  rw [← (Host.compile_eq_ok hg).2.2.length_eq] at hleft
  obtain ⟨m, hm, v, status, hafter, hrests⟩ :=
    Walker.exists_rests (w := ⟨c, {}, passing⟩) hcompiled.isClosed ranks hc (hleft.trans he)
  exact hrests.after?_eq_none hm hafter

/-- **Actions are reported once.**  Where nothing in a flow is re-entrant, and a run neither is
resumed at another node nor has a walk that is cut, no action is reported twice inside the same
frames. -/
theorem actions_reported_once {host : Host} {f : Flow} (hg : host.compile f = .ok g)
    (hf : f.IsPlain) (e : Engine) (context : Dict Json) (calls : List Call)
    (hcalls : ∀ id, .resume (some id) ∉ calls) (huncut : e.IsUncut g context calls) :
    ∃ past, e.History g calls past (e.run g context calls) ∧
      (past.flatMap (Walker.reports g)).map Position.node =
        (e.replies g context calls).flatMap Reply.actions ∧
      (past.flatMap (Walker.reports g)).Nodup := by
  obtain ⟨ranks⟩ := Host.nonempty_ranks hg hf
  obtain ⟨past, hpast, hactions, hdescends⟩ := exists_descends ⟨host, f, hg⟩ ranks hcalls huncut
  exact ⟨past, hpast, hactions, hdescends.nodup⟩

end Engine

namespace Samples

/-- A hand-over, an action and the end. -/
def relay : Flow where
  id := "relay"
  version := 1
  nodes := [.escalation "hand", .action "note", .terminal "end"]
  edges := [.always "hand" "note", .always "note" "end"]

/-- The graph of `relay`. -/
def relayGraph : Graph where
  flow := relay
  areas := [
    { id := .root
      entry := "hand"
      steps := [
        ⟨.escalation "hand", none, none, none, []⟩,
        ⟨.action "note", none, none, none, []⟩,
        ⟨.terminal "end", none, none, none, []⟩]
      links := [⟨0, "hand", .node "note", .always, false⟩, ⟨1, "note", .node "end", .always, false⟩]
      invalidTargets := [] }]
  warnings := []
  predicates := .builtin

theorem compile_relay : Host.builtin.compile relay = .ok relayGraph :=
  Host.compile_of_passes rfl rfl (by decide) (by with_unfolding_all rfl) rfl rfl rfl

/-- A turn while a person is waited for, the end of the hand-over, and a turn after the end. -/
def relayCalls : List Call := [.turn {}, .resume none, .turn {}]

/-- The action after the hand-over is reported once. -/
theorem relay_reported_once :
    Host.builtin.compile relay = .ok relayGraph ∧ relay.IsPlain ∧
      (∀ id, .resume (some id) ∉ relayCalls) ∧
      (Engine.ofSettings {}).IsUncut relayGraph [] relayCalls ∧
      ((Engine.ofSettings {}).run relayGraph [] relayCalls).status = .terminal "end" ∧
      ∃ past, (Engine.ofSettings {}).History relayGraph relayCalls past
          ((Engine.ofSettings {}).run relayGraph [] relayCalls) ∧
        (past.flatMap (Walker.reports relayGraph)).map Position.node = ["note"] ∧
        (past.flatMap (Walker.reports relayGraph)).Nodup := by
  have hplain : relay.IsPlain := by
    unfold Flow.IsPlain
    decide
  have hcalls : ∀ id, .resume (some id) ∉ relayCalls := by simp [relayCalls]
  have huncut : (Engine.ofSettings {}).IsUncut relayGraph [] relayCalls :=
    Engine.isUncut_of_walkBound_le compile_relay hplain (by decide) [] relayCalls
  have hstatus : ((Engine.ofSettings {}).run relayGraph [] relayCalls).status =
      .terminal "end" := by decide +kernel
  have hactions : ((Engine.ofSettings {}).replies relayGraph [] relayCalls).flatMap Reply.actions =
      ["note"] := by
    decide +kernel
  have honce :=
    Engine.actions_reported_once compile_relay hplain (.ofSettings {}) [] relayCalls hcalls huncut
  rw [hactions] at honce
  exact ⟨compile_relay, hplain, hcalls, huncut, hstatus, honce⟩

end Samples

end Parley

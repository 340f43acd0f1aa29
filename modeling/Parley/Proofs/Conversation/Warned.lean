import Parley.Proofs.Conversation.Passages
import Parley.Proofs.Graph.Warnings

/-!
# Warnings and conversations

What compilation warns of does not happen.  Unless it is put at another node by hand, a conversation
never visits a node that was reported as unreachable, and it never follows an edge that was reported
as shadowed, whatever is answered.

* `Position.IsReached`: the node, and the callers of the frames around it, are reached from the
  entries of their scopes;
* `Walker.step_isReached`, `Engine.History.isReached`: steps, and runs;
* `Walker.visits`, `Walker.Takes`: the nodes that a run visits, and the links that it follows;
* `Walker.Takes.notShadowed`: no link is followed behind one that always holds;
* `Engine.warnings_exact`.
-/

namespace Parley

/-- In a scope of a graph a node is reached from the entry. -/
def Graph.IsReached (g : Graph) (scope : ScopeId) (id : NodeId) : Prop :=
  ∃ a, g.area? scope = some a ∧ id ∈ a.reachable

/-- The callers of frames, innermost first, are reached in the scopes around the frames. -/
def Graph.AreReached (g : Graph) : List Frame → Prop
  | [] => True
  | f :: r => g.IsReached (stackScope r) f.caller ∧ g.AreReached r

/-- The current node is reached, and so are the nodes to which the frames around it return. -/
structure Position.IsReached (g : Graph) (p : Position) : Prop where
  node : g.IsReached p.scope p.node
  callers : g.AreReached p.stack

variable {g : Graph}

theorem Graph.IsCompiled.exists_compileArea (hg : g.IsCompiled) {a : Area} (ha : a ∈ g.areas) :
    ∃ host known scope d, compileArea host known scope d = .ok a := by
  obtain ⟨host, f, hg⟩ := hg
  obtain ⟨p, -, hpa⟩ := exists_of_forall₂_right (Host.compile_eq_ok hg).2.2 ha
  exact ⟨host, _, p.1, p.2, hpa⟩

theorem Graph.IsCompiled.entry_isReached (hg : g.IsCompiled) {scope : ScopeId} {a : Area}
    (ha : g.area? scope = some a) : g.IsReached scope a.entry := by
  obtain ⟨host, known, s, d, hd⟩ := hg.exists_compileArea (Graph.area?_mem ha)
  exact ⟨a, ha, entry_mem_reachable hd⟩

/-! ### Steps and runs -/

namespace Walker

variable {w v : Walker}

/-- **A step goes on to a node that is reached.** -/
theorem step_isReached (hg : g.IsCompiled) (hw : w.conversation.position.IsReached g) :
    (w.step g).walker.conversation.position.IsReached g := by
  unfold step
  cases hlook : look g w.conversation with
  | error fault => exact hw
  | ok found =>
    obtain ⟨area, s⟩ := found
    obtain ⟨harea, hs⟩ := look_eq_ok hlook
    simp only
    cases hm : w.decide g area s with
    | wait | finish | escalate | deadEnd => simpa [make, Progress.walker] using hw
    | goto id =>
      obtain ⟨l, hl, htarget⟩ := decide_eq_goto hm
      obtain ⟨host, known, scope, d, hd⟩ := hg.exists_compileArea (Graph.area?_mem harea)
      obtain ⟨a, ha, hreached⟩ := hw.node
      obtain rfl : area = a := Option.some.inj (harea.symm.trans ha)
      rw [Area.step?_id hs] at hl
      have hnext : id ∈ area.successors w.conversation.position.node :=
        List.mem_append_left _ (List.mem_filterMap.2 ⟨l, hl, by rw [htarget]⟩)
      simp only [make, Progress.walker, setPosition_conversation, note_conversation]
      exact ⟨⟨area, harea, mem_reachable_of_mem_successors hd hreached hnext⟩, hw.callers⟩
    | enter scope =>
      simp only [make]
      split
      · simpa [Progress.walker] using hw
      · rename_i inner hinner
        simp only [Progress.walker, setPosition_conversation, note_conversation]
        exact ⟨hg.entry_isReached hinner, hw.node, hw.callers⟩
    | leave =>
      -- the caller was reached when the frame was entered
      simp only [make, note_conversation]
      split
      · simpa [Progress.walker] using hw
      · rename_i frame rest hstack
        have hcallers := hw.callers
        rw [hstack] at hcallers
        exact ⟨hcallers.1, hcallers.2⟩

end Walker

theorem walk_isReached (hg : g.IsCompiled) {w : Walker}
    (hw : w.conversation.position.IsReached g) (n : ℕ) :
    (walk g n w).1.conversation.position.IsReached g :=
  walk_keeps (P := fun w => w.conversation.position.IsReached g) (fun _ => Walker.step_isReached hg)
    (fun _ h => h) hw

theorem moments_isReached (hg : g.IsCompiled) {n : ℕ} {w : Walker}
    (hw : w.conversation.position.IsReached g) :
    ∀ v ∈ moments g n w, v.conversation.position.IsReached g :=
  moments_keep (P := fun v => v.conversation.position.IsReached g)
    (fun _ => Walker.step_isReached hg) hw

namespace Engine

variable {e : Engine} {calls : List Call} {past : List Walker} {c : Conversation}

theorem opened_isReached (hg : g.IsCompiled) (context : Dict Json) :
    (opened g ((g.area? .root).elim "" Area.entry) context).position.IsReached g := by
  obtain ⟨root, hroot⟩ := Graph.exists_area?_iff.2 hg.isClosed.root
  have hentry := hg.entry_isReached hroot
  refine ⟨?_, trivial⟩
  rwa [hroot]

/-- **A run that is not put at another node by hand stays among the nodes that are reached.** -/
theorem History.isReached (h : e.History g calls past c) (hg : g.IsCompiled)
    (hcalls : ∀ id, .resume (some id) ∉ calls) :
    (∀ w ∈ past, w.conversation.position.IsReached g) ∧ c.position.IsReached g := by
  induction h with
  | start context =>
    have hopened := opened_isReached hg context
    exact ⟨moments_isReached hg (w := ⟨_, {}, false⟩) hopened,
      walk_isReached hg (w := ⟨_, {}, false⟩) hopened _⟩
  | @walks calls past c c₁ k passing review decision _ hd ih =>
    obtain ⟨hpast, hc⟩ := ih fun id hid => hcalls id (List.mem_append_left _ hid)
    rw [← hd.position_eq fun id hk => hcalls id (by simp [hk])] at hc
    refine ⟨List.forall_mem_append.2 ⟨hpast, moments_isReached hg (w := ⟨c₁, {}, passing⟩) hc⟩, ?_⟩
    exact walk_isReached hg (w := ⟨c₁, {}, passing⟩) hc _
  | stays _ hs ih =>
    obtain ⟨hpast, hc⟩ := ih fun id hid => hcalls id (List.mem_append_left _ hid)
    exact ⟨hpast, hs.position_eq ▸ hc⟩

end Engine

/-! ### Visits -/

namespace Walker

/-- Where a node is visited at a moment; to come back to a caller is not to visit it. -/
def visits (g : Graph) (w : Walker) : List Position :=
  match look g w.conversation with
  | .ok _ => if w.passing then [] else [w.conversation.position]
  | .error _ => []

theorem note_visited {area : Area} {s : Step} {w : Walker}
    (hlook : look g w.conversation = .ok (area, s)) :
    (w.note g s).trail.visited = w.trail.visited ++ (w.visits g).map Position.node := by
  have hs : s.id = w.conversation.position.node := Area.step?_id (look_eq_ok hlook).2
  unfold note visits
  rw [hlook]
  cases w.passing <;> simp [hs]

/-- A step adds the node that is visited to the trail. -/
theorem step_visited (w : Walker) :
    (w.step g).walker.trail.visited = w.trail.visited ++ (w.visits g).map Position.node := by
  cases hlook : look g w.conversation with
  | error fault => simp [step, visits, hlook, Progress.walker]
  | ok found =>
    obtain ⟨area, s⟩ := found
    rw [step, hlook]
    simp only [make_trail]
    exact note_visited hlook

end Walker

/-- The nodes that a walk adds to the trail are those visited at its moments. -/
theorem walk_visited (g : Graph) (n : ℕ) (w : Walker) :
    (walk g n w).1.trail.visited =
      w.trail.visited ++ ((moments g n w).flatMap (Walker.visits g)).map Position.node := by
  rw [List.map_flatMap]
  exact walk_adds (p := Trail.visited) Walker.step_visited n w

/-- The nodes that a reply reports as visited. -/
def Reply.visited (r : Reply) : List NodeId := r.trail.visited

namespace Engine

variable {e : Engine} {c : Conversation}

/-- A walk reports the nodes that are visited at its moments. -/
theorem advance_visited (hg : g.IsCompiled) (hc : c.IsPlaced g) (passing : Bool) (review : Review)
    (path : PathDecision) : (e.advance g c passing review path).visited =
      ((moments g e.traversal.maxAutoSteps ⟨c, {}, passing⟩).flatMap (Walker.visits g)).map
        Position.node := by
  have hfault :=
    (walk_liesIn hg.isClosed (w := ⟨c, {}, passing⟩) hc.position e.traversal.maxAutoSteps).1
  rw [Reply.visited, Reply.trail, advance_result hfault]
  exact walk_visited g _ _

/-- The replies of a run report the nodes that are visited at its moments. -/
theorem exists_visits (e : Engine) (hg : g.IsCompiled) (context : Dict Json) (calls : List Call) :
    ∃ past, e.History g calls past (e.run g context calls) ∧
      (past.flatMap (Walker.visits g)).map Position.node =
        (e.replies g context calls).flatMap Reply.visited := by
  induction calls using List.reverseRecOn with
  | nil =>
    have hvisited :=
      advance_visited (e := e) hg (opened_isPlaced hg.isClosed context) false {} .noSignal
    refine ⟨_, .start context, ?_⟩
    rw [← hvisited]
    simp [replies, repliesTo, Engine.start]
  | append_singleton calls k ih =>
    obtain ⟨past, hpast, hvisited⟩ := ih
    have hplaced := (graphReaches_run e g context calls).isPlaced hg
    rw [replies_concat, List.flatMap_append, List.flatMap_singleton, ← hvisited, run_concat]
    rcases call_cases (e := e) hplaced.toPinnedTo k with
      ⟨c₁, passing, review, decision, hd, hr⟩ | hstays
    · rw [hr]
      refine ⟨_, .walks hpast hd, ?_⟩
      rw [List.flatMap_append, List.map_append, advance_visited hg (hd.isPlaced hplaced)]
    · refine ⟨past, .stays hpast hstays, ?_⟩
      rw [Reply.visited, hstays.trail_eq hplaced.toPinnedTo, List.append_nil]

end Engine

/-! ### Links that are followed -/

/-- At a moment a link is taken from the current node, and it says where to go on. -/
def Walker.Takes (g : Graph) (w : Walker) (l : Link) : Prop :=
  ∃ area s, Walker.look g w.conversation = .ok (area, s) ∧
    area.choose s.id g.predicates w.conversation.environment = some l ∧
    w.decide g area s = .ofLink (some l)

/-- A guard that is constantly true holds. -/
theorem Guard.EdgeGuard.holds_of_isAlwaysTrue {guard : EdgeGuard} (h : guard.isAlwaysTrue = true)
    (registry : Registry) (env : Environment) : holds (guard.eval registry env) = true := by
  cases guard with
  | always => rfl
  | otherwise => cases h
  | condition e =>
    cases e with
    | literal b =>
      cases b with
      | true => rfl
      | false => cases h
    | _ => cases h

/-- **No link is chosen behind one that holds.** -/
theorem Area.not_lt_of_choose {a : Area} {id : NodeId} {registry : Guard.Registry}
    {env : Guard.Environment} {l b : Link}
    (hincreasing : a.links.Pairwise fun l l' => l.index < l'.index)
    (h : a.choose id registry env = some l) (hb : b ∈ a.outgoing id)
    (hholds : holds (b.guard.eval registry env) = true) : ¬ b.index < l.index := by
  unfold choose at h
  rcases Option.or_eq_some_iff.1 h with h | ⟨hnone, -⟩
  · obtain ⟨-, before, after, hsplit, hbefore⟩ := List.find?_eq_some_iff_append.1 h
    have hordered : (a.outgoing id).Pairwise fun l l' => l.index < l'.index :=
      hincreasing.sublist List.filter_sublist
    rw [hsplit] at hb hordered
    obtain ⟨-, hordered, -⟩ := List.pairwise_append.1 hordered
    rcases List.mem_append.1 hb with hb | hb
    · -- it would have been taken instead
      have hnot := hbefore b hb
      rw [hholds] at hnot
      cases hnot
    · rcases List.mem_cons.1 hb with rfl | hb
      · exact lt_irrefl _
      · exact ((List.pairwise_cons.1 hordered).1 b hb).asymm
  · exact absurd hholds (List.find?_eq_none.1 hnone b hb)

/-! ### What is reported does not happen -/

variable {host : Host} {f : Flow}

/-- A node that is reached is not reported. -/
theorem Graph.IsReached.notReported (hg : host.compile f = .ok g) (hids : g.scopeIds.Nodup)
    {scope : ScopeId} {id : NodeId} (h : g.IsReached scope id) :
    .unreachableNode scope id ∉ g.warnings := by
  rw [Host.compile_warnings hg, List.mem_flatMap]
  rintro ⟨b, hb, hwarning⟩
  obtain ⟨rfl, -, hnot⟩ := Area.unreachableNode_mem_warnings.1 hwarning
  obtain ⟨a, ha, hreached⟩ := h
  rw [Graph.area?_eq_some hids hb] at ha
  exact hnot (Option.some.inj ha ▸ hreached)

/-- The scope of a flow at which a walk looks. -/
theorem Walker.exists_compileArea_of_look (hg : host.compile f = .ok g) {w : Walker}
    {area : Area} {s : Step} (hlook : look g w.conversation = .ok (area, s)) :
    ∃ d known, (w.conversation.scope, d) ∈ f.scopes ∧
      compileArea host known w.conversation.scope d = .ok area := by
  have harea := (look_eq_ok hlook).1
  obtain ⟨⟨scope, d⟩, hp, hd⟩ :=
    exists_of_forall₂_right (Host.compile_eq_ok hg).2.2 (Graph.area?_mem harea)
  obtain rfl : w.conversation.scope = scope :=
    (Graph.area?_id harea).symm.trans (compileArea_eq_ok hd).1
  exact ⟨d, _, hp, hd⟩

/-- An edge that is followed is not shadowed. -/
theorem Walker.Takes.notShadowed (hg : host.compile f = .ok g) {w : Walker} {l : Link}
    (h : w.Takes g l) :
    ∃ d e, (w.conversation.scope, d) ∈ f.scopes ∧ d.edges[l.index]? = some e ∧ l.IsOf host e ∧
      d.isShadowed e l.index = false := by
  obtain ⟨area, s, hlook, hchoose, -⟩ := h
  obtain ⟨d, known, hp, hd⟩ := exists_compileArea_of_look hg hlook
  obtain ⟨hl, hsource⟩ := Area.mem_outgoing.1 (Area.mem_outgoing_of_choose hchoose)
  obtain ⟨e, he, hat⟩ := compileArea_exists_isAt hd hl
  refine ⟨d, e, hp, he, hat.toIsOf, ?_⟩
  rw [← Bool.not_eq_true, isShadowed_iff hd hat, hsource]
  rintro ⟨b, hb, halways, hbefore⟩
  have hholds :=
    Guard.EdgeGuard.holds_of_isAlwaysTrue halways g.predicates w.conversation.environment
  exact Area.not_lt_of_choose (compileArea_links_increasing hd) hchoose hb hholds hbefore

/-- **Warnings are exact.**  The nodes that compilation reports are those to which no edges lead
from the entry of their scope, and the edges that it reports are those behind an edge that is always
followed.  A conversation that is not put at another node by hand visits none of these nodes and
follows none of these edges. -/
theorem Engine.warnings_exact (hg : host.compile f = .ok g)
    (hsorted : ∀ p ∈ f.scopes, Dict.Ordered p.2.subgraphs) :
    (∀ scope id, .unreachableNode scope id ∈ g.warnings ↔
      ∃ d, (scope, d) ∈ f.scopes ∧ id ∈ d.nodes.map Node.id ∧ ¬ d.Reaches id) ∧
    g.warnings.filter Warning.isShadowedEdge = f.scopes.flatMap (fun p => p.2.shadowWarnings p.1) ∧
    ∀ (e : Engine) (context : Dict Json) (calls : List Call), (∀ id, .resume (some id) ∉ calls) →
      .unreachableNode (e.run g context calls).scope (e.run g context calls).position.node ∉
        g.warnings ∧
      ∃ past, e.History g calls past (e.run g context calls) ∧
        (past.flatMap (Walker.visits g)).map Position.node =
          (e.replies g context calls).flatMap Reply.visited ∧
        ∀ w ∈ past,
          .unreachableNode w.conversation.scope w.conversation.position.node ∉ g.warnings ∧
          ∀ l, w.Takes g l → ∃ d edge, (w.conversation.scope, d) ∈ f.scopes ∧
            d.edges[l.index]? = some edge ∧
            l.IsOf host edge ∧ d.isShadowed edge l.index = false := by
  have hids : g.scopeIds.Nodup := by
    rw [Host.compile_scopeIds hg]
    exact Flow.scopeIds_nodup (Host.compile_names hg hsorted)
  refine ⟨Host.unreachableNode_mem_iff hg, Host.shadowed_warnings hg,
    fun e context calls hcalls => ?_⟩
  obtain ⟨past, hpast, hvisited⟩ := exists_visits e ⟨host, f, hg⟩ context calls
  obtain ⟨hreached, hlast⟩ := hpast.isReached ⟨host, f, hg⟩ hcalls
  refine ⟨hlast.node.notReported hg hids, past, hpast, hvisited,
    fun w hw => ⟨?_, fun l htakes => ?_⟩⟩
  · exact (hreached w hw).node.notReported hg hids
  · exact htakes.notShadowed hg

namespace Samples

/-- Two questions and an end, an end to which nothing leads, and an edge past the second question
that comes too late. -/
def leftovers : Flow where
  id := "leftovers"
  version := 1
  nodes := [
    .question "name" "name" "What is your name?",
    .question "budget" "budget" "What is your budget?",
    .terminal "done",
    .terminal "orphan"]
  edges := [.always "name" "budget", .always "budget" "done", .always "name" "done"]

/-- The graph of `leftovers`. -/
def leftoversGraph : Graph where
  flow := leftovers
  areas := [
    { id := .root
      entry := "name"
      steps := [
        ⟨.question "name" "name" "What is your name?", none, none, none, []⟩,
        ⟨.question "budget" "budget" "What is your budget?", none, none, none, []⟩,
        ⟨.terminal "done", none, none, none, []⟩,
        ⟨.terminal "orphan", none, none, none, []⟩]
      links := [
        ⟨0, "name", .node "budget", .always, false⟩,
        ⟨1, "budget", .node "done", .always, false⟩,
        ⟨2, "name", .node "done", .always, false⟩]
      invalidTargets := [] }]
  warnings := [.unreachableNode .root "orphan", .shadowedEdge .root "name" "name->done"]
  predicates := .builtin

theorem compile_leftovers : Host.builtin.compile leftovers = .ok leftoversGraph :=
  Host.compile_of_passes rfl rfl (by decide) (by with_unfolding_all rfl) rfl rfl (by decide)

/-- An answer to the first question. -/
def leftoversCalls : List Call := [.turn { proposals := [{ key := "name", value := .string "x" }] }]

/-- The second question is asked, and the conversation stays away from the end that nothing leads
to. -/
theorem leftovers_warned :
    Host.builtin.compile leftovers = .ok leftoversGraph ∧
      (∀ p ∈ leftovers.scopes, Dict.Ordered p.2.subgraphs) ∧
      (∀ id, .resume (some id) ∉ leftoversCalls) ∧
      ¬ leftovers.Reaches "orphan" ∧
      ∃ past, (Engine.ofSettings {}).History leftoversGraph leftoversCalls past
          ((Engine.ofSettings {}).run leftoversGraph [] leftoversCalls) ∧
        (past.flatMap (Walker.visits leftoversGraph)).map Position.node =
          ["name", "name", "budget"] ∧
        ∀ w ∈ past, w.conversation.scope = .root → w.conversation.position.node ≠ "orphan" := by
  have hscopes : leftovers.scopes = [(.root, leftovers)] := rfl
  have hsorted : ∀ p ∈ leftovers.scopes, Dict.Ordered p.2.subgraphs := by
    rw [hscopes, List.forall_mem_singleton]
    exact .nil
  have hcalls : ∀ id, .resume (some id) ∉ leftoversCalls := by simp [leftoversCalls]
  have hvisited : ((Engine.ofSettings {}).replies leftoversGraph [] leftoversCalls).flatMap
      Reply.visited =
      ["name", "name", "budget"] := by decide +kernel
  obtain ⟨hnodes, -, hruns⟩ := Engine.warnings_exact compile_leftovers hsorted
  obtain ⟨d, hd, -, hnot⟩ := (hnodes .root "orphan").1 List.mem_cons_self
  obtain ⟨-, past, hpast, hvisits, hmoments⟩ := hruns (.ofSettings {}) [] leftoversCalls hcalls
  rw [hscopes, List.mem_singleton, Prod.mk.injEq] at hd
  refine ⟨compile_leftovers, hsorted, hcalls, hd.2 ▸ hnot, past, hpast, hvisits.trans hvisited,
    fun w hw hroot hid => ?_⟩
  have hquiet := (hmoments w hw).1
  rw [hroot, hid] at hquiet
  exact hquiet List.mem_cons_self

end Samples

end Parley

import Parley.Proofs.Conversation.CallStack
import Parley.Proofs.Conversation.Signals

/-!
# Where a locked path comes from

A path is locked by the turns that signal it or by an override.  An override takes only paths that
some node lists; a signal is taken as it is.

* `Call.Names`: the calls that name a path;
* `PolicySettings.of_locked?_observe`, `Engine.of_locked?_call`: what a signal and a call can lock;
* `Engine.locked_offered`: a path that is locked was signalled, or it is offered, and a fork that
  lists it enters it.
-/

namespace Parley

variable {g : Graph} {path : PathId}

/-! ### Signals -/

/-- A signal locks no other path than the one signalled. -/
theorem PolicySettings.of_locked?_observe (p : PolicySettings Binary64) {s : PathState Binary64}
    {signal : Option PathId} (h : (p.observe s signal).1.locked? = some path) :
    s.locked? = some path ∨ signal = some path := by
  cases hlocked : s.isLocked with
  | true =>
    refine .inl ?_
    cases signal <;> simpa [observe, hlocked] using h
  | false =>
    cases signal with
    | none => simp [observe, hlocked, PathState.locked?_eq_some] at h
    | some signal =>
      simp only [observe, hlocked, Bool.false_eq_true, if_false] at h
      exact .inr ((p.active_vote s signal).symm.trans (PathState.locked?_eq_some.1 h).2)

/-! ### Calls -/

/-- A call names a path: it is a turn that signals it, or an override with a path that some node
lists. -/
inductive Call.Names (g : Graph) (path : PathId) : Call → Prop
  | turn {input : TurnInput} : input.path = some path → Names g path (.turn input)
  | overridePath : (g.pathScopes path).isEmpty = false → Names g path (.overridePath path)

namespace Engine

variable {e : Engine} {c : Conversation}

/-- A call locks no other path than the one that it names. -/
theorem of_locked?_call (hc : c.PinnedTo g) {k : Call}
    (h : (e.call g c k).conversation.path.locked? = some path) :
    c.path.locked? = some path ∨ k.Names g path := by
  rcases call_cases (e := e) hc k with ⟨c₁, passing, review, decision, hd, hr⟩ | hs
  · rw [hr, advance_conversation, (walk_follows g _ _).path_eq] at h
    cases hd with
    | turn => exact (e.policy.of_locked?_observe h).imp_right .turn
    | resumeAt | resume => exact .inl h
    | overridePath _ hlisted =>
      cases (PathState.locked?_eq_some.1 h).2
      exact .inr (.overridePath hlisted)
  · generalize e.call g c k = r at hs h
    cases hs with
    | suspended | held => exact (e.policy.of_locked?_observe h).imp_right .turn
    | overridden _ hlisted =>
      cases (PathState.locked?_eq_some.1 h).2
      exact .inr (.overridePath hlisted)
    | idle | notEscalated | missingScope | notInScope | notOffered => exact .inl h

/-- A path that is locked after a run was named by one of its calls. -/
theorem exists_names_of_locked? {context : Dict Json} {calls : List Call}
    (h : (e.run g context calls).path.locked? = some path) : ∃ k ∈ calls, k.Names g path := by
  induction calls using List.reverseRecOn with
  | nil =>
    rw [run, after, List.foldl_nil, start, advance_conversation, (walk_follows g _ _).path_eq] at h
    cases h
  | append_singleton calls k ih =>
    rw [run_concat] at h
    rcases of_locked?_call (run_pinnedTo e g context calls) h with hbefore | hnames
    · obtain ⟨k', hk', hnames⟩ := ih hbefore
      exact ⟨k', List.mem_append_left _ hk', hnames⟩
    · exact ⟨k, by simp, hnames⟩

end Engine

/-! ### Forks -/

/-- A node lists a path and is no fork, so it does not enter the scope of the path. -/
def Flow.ListsElsewhere (f : Flow) (path : PathId) : Prop :=
  ∃ p ∈ f.scopes, ∃ n ∈ p.2.nodes, path ∈ n.paths ∧ n.isFork = false

theorem Node.kind_of_isFork {n : Node} (h : n.isFork = true) : n.kind = .subgraphRef := by
  simp only [isFork, Bool.and_eq_true, decide_eq_true_eq] at h
  exact h.1

section Compiled

variable {host : Host} {f : Flow} (hg : host.compile f = .ok g)

include hg

/-- A path that leads into some scope is listed by a node: a fork, or one that does not enter that
scope. -/
theorem Host.compile_lists (hlisted : (g.pathScopes path).isEmpty = false) :
    f.Offers path ∨ f.ListsElsewhere path := by
  obtain ⟨t, ht⟩ := List.exists_mem_of_ne_nil _ (List.isEmpty_eq_false_iff.1 hlisted)
  rw [Graph.pathScopes, List.mem_eraseDups, List.mem_flatMap] at ht
  obtain ⟨a, ha, ht⟩ := ht
  obtain ⟨s, hs, hscope⟩ := List.mem_filterMap.1 ht
  have hpaths := Host.compile_mem_paths hg ha hs hscope
  obtain ⟨p, hp, hn⟩ := Host.compile_step_node hg ha hs
  cases hfork : s.node.isFork with
  | true => exact .inl ⟨p, hp, s.node, hn, hfork, hpaths⟩
  | false => exact .inr ⟨p, hp, s.node, hn, hpaths, hfork⟩

/-- A fork has no fixed subgraph, and it leads along each path that it lists. -/
theorem Host.compile_fork {a : Area} (ha : a ∈ g.areas) {s : Step} (hs : s ∈ a.steps)
    (hfork : s.node.isFork = true) (hpath : path ∈ s.node.paths) :
    s.subgraph = none ∧ ∃ scope, s.pathScope? path = some scope := by
  obtain ⟨p, -, hpa⟩ := exists_of_forall₂_right (Host.compile_eq_ok hg).2.2 ha
  obtain ⟨n, -, hn⟩ := exists_of_forall₂_right (compileArea_steps hpa) hs
  obtain ⟨hnode, hsubgraph, -⟩ := compileNode_eq_ok hn
  rw [hnode] at hfork hpath
  have hwell : n.IsWellFormed host _ _ := exists_compileNode_iff.1 ⟨s, hn⟩
  refine ⟨?_, compileNode_pathScope? hn hpath⟩
  rcases option_mapM_eq_ok.1 hsubgraph with ⟨-, hnone⟩ | ⟨name, t, hname, -, -⟩
  · exact hnone
  · have hempty :=
      (hwell.subgraph (Node.kind_of_isFork hfork)).1 (by rw [hname]; exact Option.some_ne_none _)
    rw [hempty] at hpath
    cases hpath

/-- **At a fork that lists the locked path, the walk goes along the path**, if the fork is eligible
and has not been run yet. -/
theorem Walker.step_fork {w : Walker} {a : Area} {s : Step}
    (hlook : look g w.conversation = .ok (a, s)) (hfork : s.node.isFork = true)
    (hpath : path ∈ s.node.paths) (hlocked : w.conversation.path.locked? = some path)
    (hpassing : w.passing = false)
    (heligible : s.isEligible g.predicates w.conversation.environment = true) :
    ∃ inner v, s.pathScope? path = some inner.id ∧ g.area? inner.id = some inner ∧
      w.step g = .moved v ∧
      v.conversation.position =
        ⟨inner.entry, ⟨inner.id, s.id⟩ :: w.conversation.position.stack⟩ := by
  obtain ⟨harea, hs⟩ := look_eq_ok hlook
  have ha := Graph.area?_mem harea
  have hkind : s.node.kind = .subgraphRef := Node.kind_of_isFork hfork
  obtain ⟨hsubgraph, scope, hscope⟩ := Host.compile_fork hg ha (Area.step?_mem hs) hfork hpath
  -- the scope of the path exists, as the graph is compiled
  have hclosed : g.IsClosed := Graph.IsCompiled.isClosed ⟨host, f, hg⟩
  have htarget : scope ∈ s.targets := (Runs.follow hkind hsubgraph hlocked hscope).mem_targets
  obtain ⟨inner, hinner⟩ :=
    Graph.exists_area?_iff.2 ((hclosed.areas a ha).targets s (Area.step?_mem hs) scope htarget)
  obtain rfl := Graph.area?_id hinner
  have hmove : w.decide g a s = .enter inner.id := by
    simp [decide, hpassing, heligible, run, hkind, Move.intoSubgraph, hsubgraph, hlocked, hscope]
  refine ⟨inner, (w.note g s).setPosition
    ⟨inner.entry, ⟨inner.id, s.id⟩ :: w.conversation.position.stack⟩, hscope, hinner, ?_, rfl⟩
  simp [step, hlook, hmove, make, hinner, Area.step?_id hs]

end Compiled

namespace Engine

/-- **A path that is locked was signalled by a turn, or it is offered.**  A signal is not checked,
so it can lock a path that no fork offers; an override is, but it takes a path that only other nodes
list as well.  At each fork that lists the locked path, a conversation goes along it, if the fork is
eligible and has not been run yet. -/
theorem locked_offered {host : Host} {f : Flow} (hg : host.compile f = .ok g) (e : Engine)
    (context : Dict Json) (calls : List Call)
    (hlocked : (e.run g context calls).path.locked? = some path) :
    (f.Offers path ∨ (∃ input, .turn input ∈ calls ∧ input.path = some path) ∨
      .overridePath path ∈ calls ∧ f.ListsElsewhere path) ∧
    ∀ (w : Walker) a s, Walker.look g w.conversation = .ok (a, s) → s.node.isFork = true →
      path ∈ s.node.paths →
      w.conversation.path.locked? = some path → w.passing = false →
      s.isEligible g.predicates w.conversation.environment = true →
      ∃ inner v, s.pathScope? path = some inner.id ∧ g.area? inner.id = some inner ∧
        w.step g = .moved v ∧
        v.conversation.position =
          ⟨inner.entry, ⟨inner.id, s.id⟩ :: w.conversation.position.stack⟩ := by
  refine ⟨?_, fun _ _ _ => Walker.step_fork hg⟩
  obtain ⟨k, hk, hnames⟩ := exists_names_of_locked? hlocked
  cases hnames with
  | turn hsignal => exact .inr (.inl ⟨_, hk, hsignal⟩)
  | overridePath hlisted => exact (Host.compile_lists hg hlisted).imp_right fun h => .inr ⟨hk, h⟩

end Engine

namespace Samples

/-- Back at the fork, a conversation goes along the path that it has locked. -/
theorem crossroads_locked_offered :
    let c := eager.run crossroadsGraph [] [.turn (signalTurn "left")]
    Host.builtin.compile crossroads = .ok crossroadsGraph ∧ c.path.locked? = some "left" ∧
      ∃ v, Walker.step crossroadsGraph ⟨{ c with position := ⟨"fork", []⟩ }, {}, false⟩ = .moved v ∧
        v.conversation.position = ⟨"where", [⟨⟨"left"⟩, "fork"⟩]⟩ := by
  have hlocked : (eager.run crossroadsGraph [] [.turn (signalTurn "left")]).path.locked? =
      some "left" := by
    decide +kernel
  obtain ⟨-, henters⟩ := Engine.locked_offered compile_crossroads eager [] _ hlocked
  generalize eager.run crossroadsGraph [] [.turn (signalTurn "left")] = c at hlocked ⊢
  obtain ⟨inner, v, hscope, harea, hstep, hposition⟩ :=
    henters ⟨{ c with position := ⟨"fork", []⟩ }, {}, false⟩ _ _ rfl rfl (by decide) hlocked rfl rfl
  have hinner : inner.id = ⟨"left"⟩ := (Option.some.inj hscope).symm
  rw [hinner] at harea hposition
  cases harea
  exact ⟨compile_crossroads, hlocked, v, hstep, hposition⟩

/-- A question that lists a path as if it were a fork. -/
def signpost : Flow where
  id := "signpost"
  version := 1
  nodes := [{ Node.question "ask" "side" "Which side?" with paths := ["left"] }, .terminal "end"]
  edges := [.always "ask" "end"]
  subgraphs := crossroads.subgraphs

/-- The graph of `signpost`. -/
def signpostGraph : Graph where
  flow := signpost
  areas := [
    { id := .root
      entry := "ask"
      steps := [
        ⟨{ Node.question "ask" "side" "Which side?" with paths := ["left"] }, none, none, none,
          [("left", ⟨"left"⟩)]⟩,
        ⟨.terminal "end", none, none, none, []⟩]
      links := [⟨0, "ask", .node "end", .always, false⟩]
      invalidTargets := [] },
    { id := ⟨"left"⟩
      entry := "where"
      steps := [⟨.question "where" "place" "Where to?", none, none, none, []⟩]
      links := [⟨0, "where", .exit, .always, false⟩]
      invalidTargets := [] }]
  warnings := []
  predicates := .builtin

theorem compile_signpost : Host.builtin.compile signpost = .ok signpostGraph :=
  Host.compile_of_passes rfl rfl (by decide) (by with_unfolding_all rfl) rfl rfl rfl

/-- Two signals lock a path that no fork offers, and the fork at which it should be entered is a
dead end.  An override locks a path that only a question lists. -/
theorem unoffered_locked :
    (Host.builtin.compile crossroads = .ok crossroadsGraph ∧ ¬ crossroads.Offers "north" ∧
      let c := (Engine.ofSettings {}).run crossroadsGraph []
        [.turn (signalTurn "north"), .turn (signalTurn "north")]
      c.path.locked? = some "north" ∧ c.status = .escalated (.deadEnd "fork")) ∧
    Host.builtin.compile signpost = .ok signpostGraph ∧ ¬ signpost.Offers "left" ∧
      ((Engine.ofSettings {}).run signpostGraph [] [.overridePath "left"]).path.locked? =
        some "left" := by
  have hcrossroads : ¬ crossroads.Offers "north" := by
    unfold Flow.Offers
    decide
  have hsignpost : ¬ signpost.Offers "left" := by
    unfold Flow.Offers
    decide
  exact ⟨⟨compile_crossroads, hcrossroads, by decide +kernel, by decide +kernel⟩,
    compile_signpost, hsignpost, by decide +kernel⟩

end Samples

end Parley

import Parley.Proofs.Conversation.Locking

/-!
# Dead ends

Compilation refuses nodes from which no edge can always be taken, but for those at which a
conversation ends or is handed to a person.  So at all other nodes a link is found whatever guards
hold and whichever of them fail, and a conversation gets stuck for two reasons only: at such a node
that it may not run or is to pass, or at a fork that does not offer the path that is locked.

* `Graph.IsCompiled.exists_choose`: where a link is always found;
* `Walker.IsStuck`, `Walker.decide_eq_deadEnd_iff`: the nodes at which there is no way on;
* `Engine.Strands`, `Engine.advance_status_iff`: walks that end there;
* `Engine.deadEnds_iff`.
-/

namespace Parley

variable {g : Graph} {a : Area} {s : Step}

/-! ### Links and forks -/

/-- Where a conversation neither ends nor is handed over, a link is found. -/
theorem Graph.IsCompiled.exists_choose (hg : g.IsCompiled) (ha : a ∈ g.areas) (hs : s ∈ a.steps)
    (hfinal : s.node.kind.isFinal = false) (registry : Guard.Registry) (env : Guard.Environment) :
    ∃ l, a.choose s.id registry env = some l :=
  Area.exists_choose registry env (hg.exists_fallback ha hs hfinal)

/-- A step of a compiled graph is its node compiled. -/
theorem Graph.IsCompiled.exists_compileNode (hg : g.IsCompiled) (ha : a ∈ g.areas)
    (hs : s ∈ a.steps) :
    ∃ host known scope, compileNode host known scope s.node = .ok s := by
  obtain ⟨host, f, hg⟩ := hg
  obtain ⟨p, -, hpa⟩ := exists_of_forall₂_right (Host.compile_eq_ok hg).2.2 ha
  obtain ⟨n, -, hn⟩ := exists_of_forall₂_right (compileArea_steps hpa) hs
  rw [← (compileNode_eq_ok hn).1] at hn
  exact ⟨host, _, _, hn⟩

section Node

variable {host : Host} {known : List ScopeId} {scope : ScopeId}

/-- What enters subgraphs is a fork unless it has a fixed one. -/
theorem compileNode_isFork_iff (h : compileNode host known scope s.node = .ok s)
    (hkind : s.node.kind = .subgraphRef) :
    s.node.isFork = true ↔ s.subgraph = none := by
  have hform := (exists_compileNode_iff.1 ⟨s, h⟩).subgraph hkind
  obtain ⟨-, hsubgraph, -⟩ := compileNode_eq_ok h
  simp only [Node.isFork, hkind, decide_true, Bool.true_and, Bool.not_eq_true',
    List.isEmpty_eq_false_iff, ne_eq, ← hform, not_not]
  rcases option_mapM_eq_ok.1 hsubgraph with ⟨hnode, hstep⟩ | ⟨name, t, hnode, -, hstep⟩
    <;> simp [hnode, hstep]

/-- A step leads along the paths that its node lists. -/
theorem compileNode_pathScope?_eq_none_iff (h : compileNode host known scope s.node = .ok s)
    {path : PathId} :
    s.pathScope? path = none ↔ path ∉ s.node.paths := by
  constructor
  · intro hnone hpath
    obtain ⟨t, ht⟩ := compileNode_pathScope? h hpath
    cases hnone.symm.trans ht
  · intro hpath
    by_contra hsome
    obtain ⟨t, ht⟩ := Option.ne_none_iff_exists'.1 hsome
    exact hpath (compileNode_mem_paths h ht)

end Node

/-! ### Nodes without a way on -/

/-- There is no way on: the node is of a kind at which conversations end or are handed over, but it
is passed or may not be run, and no link can be taken; or it is a fork, it is run, and the path that
is locked is not among its own. -/
inductive Walker.IsStuck (g : Graph) (w : Walker) (a : Area) (s : Step) : Prop
  | final : s.node.kind = .terminal ∨ s.node.kind = .escalation →
      w.passing = true ∨ s.isEligible g.predicates w.conversation.environment = false →
      a.choose s.id g.predicates w.conversation.environment = none → IsStuck g w a s
  | fork {path : PathId} : s.node.isFork = true → w.passing = false →
      s.isEligible g.predicates w.conversation.environment = true →
        w.conversation.path.locked? = some path →
      path ∉ s.node.paths → IsStuck g w a s

theorem NodeKind.isFinal_iff {k : NodeKind} :
    k.isFinal = true ↔ k = .terminal ∨ k = .escalation := by
  cases k <;> simp [isFinal]

theorem Move.ofLink_eq_deadEnd_iff {o : Option Link} : ofLink o = .deadEnd ↔ o = none := by
  rcases ofLink_cases o with ⟨id, h⟩ | h | ⟨rfl, h⟩
  · rw [h]
    refine iff_of_false nofun ?_
    rintro rfl
    cases h
  · rw [h]
    refine iff_of_false nofun ?_
    rintro rfl
    cases h
  · exact iff_of_true h rfl

/-- **A conversation does not get on where there is no way on, and only there.** -/
theorem Walker.decide_eq_deadEnd_iff (hg : g.IsCompiled) (ha : a ∈ g.areas) (hs : s ∈ a.steps)
    {w : Walker} :
    w.decide g a s = .deadEnd ↔ w.IsStuck g a s := by
  obtain ⟨host, known, scope, hcompile⟩ := hg.exists_compileNode ha hs
  constructor
  · intro h
    rcases decide_cases g w a s with honward | ⟨hpassing, heligible, hruns⟩
    · -- no link is taken, so the node is one of those that need none
      rw [h, onward, eq_comm, Move.ofLink_eq_deadEnd_iff] at honward
      have hfinal : s.node.kind.isFinal = true := by
        by_contra hplain
        obtain ⟨l, hl⟩ :=
          hg.exists_choose ha hs (by simpa using hplain) g.predicates w.conversation.environment
        cases honward.symm.trans hl
      refine .final (NodeKind.isFinal_iff.1 hfinal) ?_ honward
      by_contra hrun
      obtain ⟨hpassing, heligible⟩ := not_or.1 hrun
      -- otherwise it would have been run
      rw [decide_eq, if_neg hpassing, if_pos (by simpa using heligible)] at h
      rcases NodeKind.isFinal_iff.1 hfinal with hkind | hkind <;> simp [run, hkind] at h
    · rw [h] at hruns
      cases hruns with
      | stray hkind hsubgraph hlocked hpath =>
        exact .fork ((compileNode_isFork_iff hcompile hkind).2 hsubgraph) hpassing heligible hlocked
          ((compileNode_pathScope?_eq_none_iff hcompile).1 hpath)
  · rintro (⟨-, hpassed, hnone⟩ | ⟨hfork, hpassing, heligible, hlocked, hpath⟩)
    · have honward : w.onward g a s = .deadEnd := Move.ofLink_eq_deadEnd_iff.2 hnone
      rw [decide_eq]
      split_ifs with h h'
      · exact honward
      · rcases hpassed with hpassed | hpassed
        · exact absurd hpassed h
        · exact absurd h' (by simp [hpassed])
      · exact honward
    · have hkind := Node.kind_of_isFork hfork
      have hsubgraph := (compileNode_isFork_iff hcompile hkind).1 hfork
      have hscope := (compileNode_pathScope?_eq_none_iff hcompile).2 hpath
      simp [decide_eq, hpassing, heligible, run, hkind, Move.intoSubgraph, hsubgraph,
        hlocked, hscope]

/-! ### Walks that end there -/

namespace Engine

variable {e : Engine} {c : Conversation} {passing : Bool} {id : NodeId}

/-- Going on from a conversation leads to a node without a way on. -/
def Strands (e : Engine) (g : Graph) (c : Conversation) (passing : Bool) (id : NodeId) : Prop :=
  ∃ m < e.traversal.maxAutoSteps, ∃ w a s, Walker.after? g m ⟨c, {}, passing⟩ = some w ∧
    Walker.look g w.conversation = .ok (a, s) ∧ s.id = id ∧ w.IsStuck g a s

/-- A conversation escalates at a dead end where its walk leads to a node without a way on, and only
there. -/
theorem advance_status_iff (hg : g.IsCompiled) (hc : c.position.LiesIn g) (review : Review)
    (path : PathDecision) :
    (e.advance g c passing review path).conversation.status = .escalated (.deadEnd id) ↔
      e.Strands g c passing id := by
  rw [advance_conversation]
  constructor
  · intro h
    rcases Walker.rests_or_after? (w := ⟨c, {}, passing⟩) hg.isClosed hc
        e.traversal.maxAutoSteps with
      ⟨m, hm, w, status, hafter, hrests⟩ | ⟨w, hafter⟩
    · rw [(Walker.walk_of_rests hm hafter hrests).2] at h
      dsimp only at h
      subst h
      cases hrests with
      | deadEnd hlook hmove =>
        obtain ⟨ha, hs⟩ := Walker.look_eq_ok hlook
        exact ⟨m, hm, w, _, _, hafter, hlook, Area.step?_id hs,
          (Walker.decide_eq_deadEnd_iff hg (Graph.area?_mem ha) (Area.step?_mem hs)).1 hmove⟩
    · -- a walk that is cut leaves the conversation waiting for input
      rw [walk_of_after? hafter] at h
      cases h
  · rintro ⟨m, hm, w, a, s, hafter, hlook, rfl, hstuck⟩
    obtain ⟨ha, hs⟩ := Walker.look_eq_ok hlook
    have hmove :=
      (Walker.decide_eq_deadEnd_iff hg (Graph.area?_mem ha) (Area.step?_mem hs)).2 hstuck
    rw [(Walker.walk_of_rests hm hafter (.deadEnd hlook hmove)).2, Area.step?_id hs]

/-- A call that does not walk leads to no dead end. -/
theorem Stays.status_of_deadEnd {k : Call} {r : Reply} (h : e.Stays g c k r)
    (hr : r.conversation.status = .escalated (.deadEnd id)) :
    c.status = .escalated (.deadEnd id) := by
  cases h with
  | idle | notEscalated | missingScope | notInScope | notOffered | overridden => exact hr
  | suspended => cases hr
  | held hs =>
    -- a turn that is held leaves the conversation waiting for input
    cases hs.symm.trans hr

/-- **Dead ends.**  At every node at which a conversation neither ends nor is handed over, a link is
found whatever guards hold and whichever fail.  So, wherever a conversation stands in a compiled
graph, going on escalates it at a dead end exactly where there is no way on: at such a node that is
passed or may not be run and has no link to take, or at a fork that does not offer the path that is
locked.  A call leads to a dead end only by going on. -/
theorem deadEnds_iff (hg : g.IsCompiled) :
    (∀ a ∈ g.areas, ∀ s ∈ a.steps,
      s.node.kind = .question ∨ s.node.kind = .decision ∨ s.node.kind = .action ∨
      s.node.kind = .subgraphRef →
        ∀ registry env, ∃ l, a.choose s.id registry env = some l) ∧
    (∀ (e : Engine) (c : Conversation) passing review path id, c.position.LiesIn g →
      ((e.advance g c passing review path).conversation.status = .escalated (.deadEnd id) ↔
        e.Strands g c passing id)) ∧
    (∀ (e : Engine) context id, (e.start g context).conversation.status = .escalated (.deadEnd id) →
      e.Strands g (opened g ((g.area? .root).elim "" Area.entry) context) false id) ∧
    ∀ (e : Engine) (c : Conversation) k id, c.IsPlaced g →
      (e.call g c k).conversation.status = .escalated (.deadEnd id) →
        c.status = .escalated (.deadEnd id) ∨ ∃ c₁ passing review path,
          e.Departs g c k c₁ passing review ∧
          e.call g c k = e.advance g c₁ passing review path ∧ e.Strands g c₁ passing id := by
  refine ⟨fun a ha s hs hkind => ?_, fun e c passing review path id hc => advance_status_iff hg hc
    review path, fun e context id h => ?_, fun e c k id hc h => ?_⟩
  · refine hg.exists_choose ha hs ?_
    rcases hkind with h | h | h | h <;> rw [h] <;> rfl
  · exact (advance_status_iff hg (opened_isPlaced hg.isClosed context).position {} .noSignal).1 h
  · rcases call_cases (e := e) hc.toPinnedTo k with ⟨c₁, passing, review, path, hd, hr⟩ | hstays
    · rw [hr] at h
      exact .inr ⟨c₁, passing, review, path, hd, hr,
        (advance_status_iff hg (hd.isPlaced hc).position review path).1 h⟩
    · exact .inl (hstays.status_of_deadEnd h)

end Engine

namespace Samples

/-- A signal for a path that the fork does not offer strands the conversation there. -/
theorem crossroads_deadEnd :
    let c := (eager.start crossroadsGraph []).conversation
    crossroadsGraph.IsCompiled ∧ c.IsPlaced crossroadsGraph ∧
      (eager.call crossroadsGraph c (.turn (signalTurn "north"))).conversation.status =
        .escalated (.deadEnd "fork") ∧
      ∃ c₁ passing, c₁.path.locked? = some "north" ∧
          eager.Strands crossroadsGraph c₁ passing "fork" := by
  have hg : crossroadsGraph.IsCompiled := ⟨.builtin, crossroads, compile_crossroads⟩
  have hplaced := (Engine.start_isPlaced eager hg.isClosed []).1
  have hstatus : (eager.call crossroadsGraph (eager.start crossroadsGraph []).conversation
      (.turn (signalTurn "north"))).conversation.status = .escalated (.deadEnd "fork") := by
    decide +kernel
  obtain ⟨-, -, -, hcall⟩ := Engine.deadEnds_iff hg
  refine ⟨hg, hplaced, hstatus, ?_⟩
  rcases hcall eager _ _ _ hplaced hstatus with
    hbefore | ⟨c₁, passing, review, path, hd, -, hstrands⟩
  · exact absurd hbefore (by decide +kernel)
  · refine ⟨c₁, passing, ?_, hstrands⟩
    cases hd
    decide +kernel

end Samples

end Parley

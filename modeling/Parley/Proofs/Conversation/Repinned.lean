import Parley.Proofs.Conversation.CallStack
import Parley.Proofs.Conversation.Suspension

/-!
# Conversations that are moved to newer versions

A conversation is moved to a version in which its nodes and scopes are still there.  Nothing else is
looked at, so the frames go on to stand for calls only if the version has these calls: its callers
might have become other nodes, or lead into other subgraphs.  When no later version takes away the
calls of a node that it keeps, all frames of all conversations stand for calls of their version.

* `Graph.Calls`, `Graph.HasCalls`: frames that stand for calls, and `Flow.CallsFrom`: the calls as
  they are written;
* `Engine.KeepCalls`: versions that keep the calls of the nodes that they keep;
* `Walker.step_hasCalls`, `Engine.call_hasCalls`, `Engine.Reaches.hasCalls`;
* `Engine.repin_keeps`.
-/

namespace Parley

/-! ### Calls -/

/-- A node of a scope enters another scope as its subgraph or along one of its paths. -/
def Graph.Calls (g : Graph) (scope : ScopeId) (id : NodeId) (inner : ScopeId) : Prop :=
  ∃ a s, g.area? scope = some a ∧ a.step? id = some s ∧ s.node.kind = .subgraphRef ∧
    inner ∈ s.targets

/-- Frames, innermost first, of which each stands for a call in the scope around it. -/
def Graph.HasCalls (g : Graph) : List Frame → Prop
  | [] => True
  | f :: r => g.Calls (stackScope r) f.caller f.scope ∧ g.HasCalls r

/-- Such a node as it is written in a flow. -/
def Flow.CallsFrom (f : Flow) (scope : ScopeId) (id : NodeId) (inner : ScopeId) : Prop :=
  ∃ d, Table.get? f.scopes scope = some d ∧ ∃ n ∈ d.nodes, n.id = id ∧ n.kind = .subgraphRef ∧
    ∃ name ∈ n.references, scope.Means f.scopeIds name inner

variable {g next : Graph}

theorem Graph.hasCalls_iff {frames : List Frame} : g.HasCalls frames ↔
    ∀ f outer, f :: outer <:+ frames → g.Calls (stackScope outer) f.caller f.scope := by
  induction frames with
  | nil => exact iff_of_true trivial fun f outer h => by cases List.suffix_nil.1 h
  | cons f r ih =>
    rw [Graph.HasCalls, ih]
    constructor
    · rintro ⟨hcall, hrest⟩ f' outer h
      rcases List.suffix_cons_iff.1 h with heq | h
      · cases heq
        exact hcall
      · exact hrest f' outer h
    · exact fun h =>
        ⟨h f r List.suffix_rfl, fun f' outer h' => h f' outer (h'.trans (List.suffix_cons f r))⟩

/-- The calls of a compiled graph are those of its flow. -/
theorem Graph.IsCompiled.calls_iff (hg : g.IsCompiled) {scope inner : ScopeId} {id : NodeId} :
    g.Calls scope id inner ↔ g.flow.CallsFrom scope id inner := by
  obtain ⟨host, f, hf⟩ := hg
  obtain ⟨hflow, -, hareas⟩ := Host.compile_eq_ok hf
  have hfound := find_area hareas scope
  rw [hflow, Graph.Calls, Flow.CallsFrom, Graph.area?]
  generalize Table.get? f.scopes scope = found, (g.areas.find? fun a => a.id = scope) =
    found' at hfound ⊢
  cases hfound with
  | none => simp
  | @some d a hd =>
    have hids : (a.steps.map Step.id).Nodup := by
      rw [map_step_id, compileArea_nodes hd]
      exact (exists_compileArea_iff.1 ⟨a, hd⟩).ids
    have hsteps := compileArea_steps hd
    simp only [Option.some.injEq, exists_eq_left']
    constructor
    · rintro ⟨_, s, rfl, hs, hkind, htarget⟩
      obtain ⟨hmem, rfl⟩ := (Area.step?_eq_some_iff hids).1 hs
      obtain ⟨n, hn, hns⟩ := exists_of_forall₂_right hsteps hmem
      obtain ⟨hnode, -⟩ := compileNode_eq_ok hns
      exact ⟨n, hn, by rw [Step.id, hnode], hnode ▸ hkind, (compileNode_mem_targets hns).1 htarget⟩
    · rintro ⟨n, hn, rfl, hkind, hmeans⟩
      obtain ⟨s, hs, hns⟩ := exists_of_forall₂_right hsteps.flip hn
      obtain ⟨hnode, -⟩ := compileNode_eq_ok hns
      have hfind := (Area.step?_eq_some_iff hids).2 ⟨hs, rfl⟩
      rw [Step.id, hnode] at hfind
      exact ⟨a, s, rfl, hfind, hnode.symm ▸ hkind, (compileNode_mem_targets hns).2 hmeans⟩

/-! ### On one version -/

/-- A step enters a subgraph by a call. -/
theorem Walker.step_hasCalls {w : Walker} (hw : g.HasCalls w.conversation.position.stack) :
    g.HasCalls (w.step g).walker.conversation.position.stack := by
  by_cases hmoved : ∃ v, w.step g = .moved v
  · obtain ⟨v, hv⟩ := hmoved
    rw [hv]
    show g.HasCalls v.conversation.position.stack
    rcases stack_of_step hv with hstack | ⟨f, hstack⟩ | ⟨area, s, scope, hlook, hruns, hstack⟩
    · rwa [hstack]
    · rw [hstack] at hw
      exact hw.2
    · obtain ⟨harea, hs⟩ := look_eq_ok hlook
      have hkind : s.node.kind = .subgraphRef := by cases hruns <;> assumption
      rw [hstack]
      exact ⟨⟨area, s, harea, hs, hkind, hruns.mem_targets⟩, hw⟩
  · rwa [position_of_step (not_exists.1 hmoved)]

namespace Engine

variable {e : Engine} {c : Conversation}

theorem advance_hasCalls (hc : g.HasCalls c.position.stack) (passing : Bool) (review : Review)
    (path : PathDecision) :
    g.HasCalls (e.advance g c passing review path).conversation.position.stack :=
  walk_keeps (P := fun w => g.HasCalls w.conversation.position.stack)
    (fun _ => Walker.step_hasCalls) (fun _ h => h) (w := ⟨c, {}, passing⟩) hc

theorem call_hasCalls (hpinned : c.PinnedTo g) (hc : g.HasCalls c.position.stack) (k : Call) :
    g.HasCalls (e.call g c k).conversation.position.stack := by
  rcases call_cases (e := e) hpinned k with ⟨c₁, passing, review, decision, hd, hr⟩ | hstays
  · rw [hr]
    exact advance_hasCalls (hd.stack_eq ▸ hc) passing review decision
  · rwa [hstays.position_eq]

end Engine

/-! ### From one version to another -/

/-- The nodes and scopes of a graph that another one keeps are called in it as before. -/
def Graph.KeepsCalls (g next : Graph) : Prop :=
  ∀ scope id inner, g.Calls scope id inner → next.HasNode scope id → inner ∈ next.scopeIds →
    next.Calls scope id inner

theorem Graph.KeepsCalls.hasCalls (h : g.KeepsCalls next) {frames : List Frame}
    (hcalls : g.HasCalls frames) (hframes : next.HasFrames frames) : next.HasCalls frames := by
  induction frames with
  | nil => trivial
  | cons f r ih =>
    obtain ⟨hcall, hrest⟩ := hcalls
    obtain ⟨hscope, hcaller, houter⟩ := hframes
    exact ⟨h _ _ _ hcall hcaller hscope, ih hrest houter⟩

namespace Engine

variable {e : Engine} {versions : Set Graph} {c : Conversation}

/-- Each version of a flow keeps the calls of the nodes that it keeps of the versions before it. -/
def KeepCalls (versions : Set Graph) : Prop :=
  ∀ g ∈ versions, ∀ next ∈ versions, next.id = g.id → g.version < next.version → g.KeepsCalls next

/-- A move to a version that keeps calls keeps what the frames stand for. -/
theorem repin_hasCalls {c' : Conversation}
    (hkeep : next.id = g.id → g.version < next.version → g.KeepsCalls next) (hc : c.PinnedTo g)
    (hcalls : g.HasCalls c.position.stack) (hr : repin next c = .ok c') :
    next.HasCalls c'.position.stack := by
  obtain ⟨⟨hid, hnewer, hposition⟩, rfl⟩ := repin_eq_ok.1 hr
  exact (hkeep (hid.trans hc.flow.symm) (hc.version ▸ hnewer)).hasCalls hcalls hposition.frames

/-- **Where versions keep calls, all frames stand for calls.** -/
theorem Reaches.hasCalls (hversions : ∀ g ∈ versions, g.IsCompiled) (hkeep : KeepCalls versions)
    (h : e.Reaches versions g c) : g.HasCalls c.position.stack := by
  induction h with
  | start context hg => exact advance_hasCalls (c := opened _ _ context) trivial false {} .noSignal
  | call k hreach ih => exact call_hasCalls (hreach.isPlaced hversions).toPinnedTo ih k
  | repin hreach hnext hr ih =>
    exact repin_hasCalls (hkeep _ hreach.mem _ hnext) (hreach.isPlaced hversions).toPinnedTo ih hr

/-- **What a move to a newer version keeps.**  A move that fails leaves the conversation as it is.
One that succeeds changes its version only and leaves it in nodes and scopes that the new version
has.  Its frames then stand for calls just when the new version is written so that each caller
enters the scope of its frame, and they do after every run in which no version takes away the calls
of a node that it keeps. -/
theorem repin_keeps (hversions : ∀ g ∈ versions, g.IsCompiled) (h : e.Reaches versions g c)
    (hnext : next ∈ versions) :
    (∀ fault, repin next c = .error fault → e.perform c (.repin next) = (c, false)) ∧
    ∀ c', repin next c = .ok c' →
      e.perform c (.repin next) = (c', true) ∧ c' = { c with version := next.version } ∧
      c'.position.LiesIn next ∧
      (next.HasCalls c'.position.stack ↔
        ∀ f outer, f :: outer <:+ c.position.stack →
          next.flow.CallsFrom (stackScope outer) f.caller f.scope) ∧
      (KeepCalls versions → next.HasCalls c'.position.stack) := by
  refine ⟨fun fault hr => by simp only [perform, hr], fun c' hr => ?_⟩
  obtain ⟨⟨-, -, hposition⟩, hsame⟩ := repin_eq_ok.1 hr
  refine ⟨by simp only [perform, hr], hsame, by rwa [hsame], ?_, fun hkeep => ?_⟩
  · simp only [hsame, Graph.hasCalls_iff, (hversions next hnext).calls_iff]
  · exact (Reaches.repin h hnext hr).hasCalls hversions hkeep

end Engine

/-! ### Callers that change -/

namespace Samples

/-- A node called `call`, with or without a call of the subgraph beside it. -/
def excursion (version : Version) (call : Node) : Flow where
  id := "excursion"
  version := version
  nodes := [call, .terminal "end"]
  edges := [.always "call" "end"]
  subgraphs :=
    [("side", { nodes := [.question "where" "place" "Where to?"], edges := [.exit "where"] })]

def excursionGraph (version : Version) (call : Step) : Graph where
  flow := excursion version call.node
  areas := [
    { id := .root
      entry := "call"
      steps := [call, ⟨.terminal "end", none, none, none, []⟩]
      links := [⟨0, "call", .node "end", .always, false⟩]
      invalidTargets := [] },
    { id := ⟨"side"⟩
      entry := "where"
      steps := [⟨.question "where" "place" "Where to?", none, none, none, []⟩]
      links := [⟨0, "where", .exit, .always, false⟩]
      invalidTargets := [] }]
  warnings := []
  predicates := .builtin

/-- The call of the subgraph, and an action in its place. -/
def calling : Step := ⟨.subgraphRef "call" "side", none, none, some ⟨"side"⟩, []⟩

def acting : Step := ⟨.action "call", none, none, none, []⟩

theorem compile_calling (version : Version) :
    Host.builtin.compile (excursion version calling.node) = .ok (excursionGraph version calling) :=
  Host.compile_of_passes rfl rfl (by cbv) (by with_unfolding_all rfl) rfl rfl rfl

theorem compile_acting (version : Version) :
    Host.builtin.compile (excursion version acting.node) = .ok (excursionGraph version acting) :=
  Host.compile_of_passes rfl rfl (by cbv) (by with_unfolding_all rfl) rfl rfl rfl

/-- A conversation that waits in the subgraph is moved to the next version, which calls it as
well. -/
theorem excursion_keeps :
    let versions : Set Graph := {excursionGraph 1 calling, excursionGraph 2 calling}
    let c := (Engine.ofSettings {}).run (excursionGraph 1 calling) [] []
    (∀ g ∈ versions, g.IsCompiled) ∧
      (Engine.ofSettings {}).Reaches versions (excursionGraph 1 calling) c ∧
      excursionGraph 2 calling ∈ versions ∧ Engine.KeepCalls versions ∧
      c.position.stack = [⟨⟨"side"⟩, "call"⟩] ∧
      Engine.repin (excursionGraph 2 calling) c = .ok { c with version := 2 } ∧
      (excursionGraph 2 calling).HasCalls c.position.stack := by
  intro versions c
  have hversions : ∀ g ∈ versions, g.IsCompiled := by
    rintro g (rfl | rfl) <;> exact ⟨.builtin, _, compile_calling _⟩
  have hreach : (Engine.ofSettings {}).Reaches versions (excursionGraph 1 calling) c :=
    Engine.reaches_run (Set.mem_insert _ _) [] []
  have hnext : excursionGraph 2 calling ∈ versions := Set.mem_insert_of_mem _ rfl
  have hkeep : Engine.KeepCalls versions := by
    rintro g (rfl | rfl) next (rfl | rfl) - - <;> exact fun _ _ _ h _ _ => h
  have hrepin : Engine.repin (excursionGraph 2 calling) c = .ok { c with version := 2 } := rfl
  obtain ⟨-, -, -, -, hcalls⟩ := (Engine.repin_keeps hversions hreach hnext).2 _ hrepin
  exact ⟨hversions, hreach, hnext, hkeep, rfl, hrepin, hcalls hkeep⟩

/-- A conversation that waits in the subgraph is moved to a version that does not call it any
more. -/
theorem excursion_detached :
    let c := (Engine.ofSettings {}).run (excursionGraph 1 calling) [] []
    Host.builtin.compile (excursion 1 calling.node) = .ok (excursionGraph 1 calling) ∧
      Host.builtin.compile (excursion 2 acting.node) = .ok (excursionGraph 2 acting) ∧
      c.position = ⟨"where", [⟨⟨"side"⟩, "call"⟩]⟩ ∧
      Engine.repin (excursionGraph 2 acting) c = .ok { c with version := 2 } ∧
      ¬ ∃ a s, (excursionGraph 2 acting).area? .root = some a ∧ a.step? "call" = some s ∧
        s.node.kind = .subgraphRef ∧ ⟨"side"⟩ ∈ s.targets := by
  refine ⟨compile_calling 1, compile_acting 2, rfl, rfl, ?_⟩
  rintro ⟨a, s, ha, hs, hkind, -⟩
  cases ha
  cases hs
  cases hkind

end Samples

end Parley

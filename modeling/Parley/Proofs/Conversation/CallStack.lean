import Parley.Proofs.Conversation.Termination

/-!
# What the frames of a conversation stand for

The frames around the current node mirror the calls that are written down in the flow: each was
entered from a node that leads into its scope, always or for the path that was locked when it was
entered.  Unless a node that enters subgraphs is re-entrant, no scope is entered from inside itself,
so a conversation is never in as many subgraphs as there are scopes.

* `moments`, `Engine.History`: the steps that a run has made;
* `Walker.Pushes`, `EnteredAt`: the step at which a frame was entered;
* `Graph.Recalls`: frames that were entered from nodes that lead into them;
* `Engine.frames_mirror_calls`.
-/

namespace Parley

variable {g : Graph}

/-! ### The moments of a run -/

/-- The walkers that take the steps of a walk, in order. -/
def moments (g : Graph) : ℕ → Walker → List Walker
  | 0, _ => []
  | n + 1, w =>
      w :: match w.step g with
        | .moved v => moments g n v
        | _ => []

/-- What every step keeps holds at all moments of a walk. -/
theorem moments_keep {P : Walker → Prop} (hstep : ∀ w, P w → P (w.step g).walker) {n : ℕ}
    {w : Walker} (hw : P w) :
    ∀ v ∈ moments g n w, P v := by
  induction n generalizing w with
  | zero => exact List.forall_mem_nil _
  | succ n ih =>
    have h := hstep w hw
    rw [moments, List.forall_mem_cons]
    refine ⟨hw, ?_⟩
    cases hs : w.step g with
    | moved v =>
      rw [hs] at h
      exact ih h
    | rested v | failed fault v => exact List.forall_mem_nil _

/-- All moments of a walk are of the conversation with which it starts. -/
theorem follows_of_mem_moments {n : ℕ} {w v : Walker} (h : v ∈ moments g n w) :
    w.conversation.Follows v.conversation :=
  moments_keep (P := fun v => w.conversation.Follows v.conversation)
    (fun v hv => hv.trans (v.step_follows g)) (.refl _) v h

/-- What is reached by fewer steps than a walk may take is one of its moments. -/
theorem mem_moments_of_after? {m n : ℕ} {w v : Walker} (h : w.after? g m = some v) (hm : m < n) :
    v ∈ moments g n w := by
  induction m generalizing n w with
  | zero =>
    cases h
    cases n with
    | zero => cases hm
    | succ n => exact List.mem_cons_self
  | succ m ih =>
    cases n with
    | zero => cases hm
    | succ n =>
      unfold Walker.after? at h
      split at h
      · rename_i u hstep
        rw [moments, hstep]
        exact List.mem_cons_of_mem _ (ih h (Nat.lt_of_succ_lt_succ hm))
      · cases h

/-- A run: the calls that were made, the walkers that have taken its steps, and the conversation it
has led to. -/
inductive Engine.History (e : Engine) (g : Graph) : List Call → List Walker → Conversation → Prop
  | start (context : Dict Json) :
      History e g []
        (moments g e.traversal.maxAutoSteps
          ⟨opened g ((g.area? .root).elim "" Area.entry) context, {}, false⟩)
        (e.start g context).conversation
  | walks {calls : List Call} {past : List Walker} {c c₁ : Conversation} {k : Call} {passing : Bool}
      {review : Review} {decision : PathDecision} : History e g calls past c →
        e.Departs g c k c₁ passing review →
      History e g (calls ++ [k]) (past ++ moments g e.traversal.maxAutoSteps ⟨c₁, {}, passing⟩)
        (e.advance g c₁ passing review decision).conversation
  | stays {calls : List Call} {past : List Walker} {c : Conversation} {k : Call} {r : Reply} :
      History e g calls past c → e.Stays g c k r → History e g (calls ++ [k]) past r.conversation

/-- Every run has a history. -/
theorem Engine.exists_history (e : Engine) (g : Graph) (context : Dict Json) (calls : List Call) :
    ∃ past, e.History g calls past (e.run g context calls) := by
  induction calls using List.reverseRecOn with
  | nil => exact ⟨_, .start context⟩
  | append_singleton calls k ih =>
    obtain ⟨past, h⟩ := ih
    rw [run_concat]
    rcases call_cases (e := e) (run_pinnedTo e g context calls) k with
      ⟨c₁, passing, review, decision, hd, hr⟩ | hstays
    · rw [hr]
      exact ⟨_, .walks h hd⟩
    · exact ⟨_, .stays h hstays⟩

/-! ### Entering a frame -/

/-- A step enters a frame from the node at which it is taken, inside the frames around that node. -/
structure Walker.Pushes (g : Graph) (w : Walker) (f : Frame) (outer : List Frame) : Prop where
  position : w.conversation.position = ⟨f.caller, outer⟩
  step : ∃ v, w.step g = .moved v ∧ v.conversation.position.stack = f :: outer

/-- One of the moments of a run is that at which a frame was entered, and at all later ones it has
been there. -/
def EnteredAt (g : Graph) (past : List Walker) (f : Frame) (outer : List Frame) (w : Walker) :
    Prop :=
  ∃ before later, past = before ++ w :: later ∧ w.Pushes g f outer ∧
    ∀ v ∈ later, f :: outer <:+ v.conversation.position.stack

namespace EnteredAt

variable {past : List Walker} {f : Frame} {outer : List Frame} {w v : Walker}

theorem mem (h : EnteredAt g past f outer w) : w ∈ past := by
  obtain ⟨before, later, rfl, -⟩ := h
  exact List.mem_append_right _ List.mem_cons_self

theorem pushed (h : w.Pushes g f outer) : EnteredAt g (past ++ [w]) f outer w :=
  ⟨past, [], rfl, h, nofun⟩

theorem later (h : EnteredAt g past f outer w) (hv : f :: outer <:+ v.conversation.position.stack) :
    EnteredAt g (past ++ [v]) f outer w := by
  obtain ⟨before, later, rfl, hpushes, hlater⟩ := h
  refine ⟨before, later ++ [v], by simp, hpushes, fun u hu => ?_⟩
  rcases List.mem_append.1 hu with hu | hu
  · exact hlater u hu
  · rwa [List.mem_singleton.1 hu]

end EnteredAt

/-- All frames were entered from nodes that lead into them: always, or for the path that was locked
then. -/
def Graph.Recalls (g : Graph) (past : List Walker) (frames : List Frame) : Prop :=
  ∀ f outer, f :: outer <:+ frames → ∃ a s, g.area? (stackScope outer) = some a ∧
    a.step? f.caller = some s ∧
    s.node.kind = .subgraphRef ∧
      (s.subgraph = some f.scope ∨
        ∃ w path, EnteredAt g past f outer w ∧ w.conversation.path.locked? = some path ∧
          s.pathScope? path = some f.scope)

namespace Graph.Recalls

variable {past : List Walker} {frames frames' : List Frame} {w : Walker}

theorem of_suffix (h : g.Recalls past frames) (hsuffix : frames' <:+ frames) :
    g.Recalls past frames' :=
  fun f outer hf => h f outer (hf.trans hsuffix)

/-- Frames that are still there at the next moment are recalled as before. -/
theorem later (h : g.Recalls past w.conversation.position.stack) :
    g.Recalls (past ++ [w]) w.conversation.position.stack := by
  intro f outer hf
  obtain ⟨a, s, ha, hs, hkind, hleads⟩ := h f outer hf
  refine ⟨a, s, ha, hs, hkind, hleads.imp_right ?_⟩
  rintro ⟨u, path, hentered, hpath⟩
  exact ⟨u, path, hentered.later hf, hpath⟩

end Graph.Recalls

/-! ### Steps -/

namespace Walker

variable {w v : Walker}

/-- A step keeps the frames, leaves the innermost one, or enters one from a node that is run. -/
theorem stack_of_step (h : w.step g = .moved v) :
    v.conversation.position.stack = w.conversation.position.stack ∨
    (∃ f, w.conversation.position.stack = f :: v.conversation.position.stack) ∨
    ∃ area s scope, look g w.conversation = .ok (area, s) ∧ Runs w.conversation s (.enter scope) ∧
      v.conversation.position.stack = ⟨scope, w.conversation.position.node⟩ ::
        w.conversation.position.stack := by
  unfold step at h
  cases hlook : look g w.conversation with
  | error fault =>
    rw [hlook] at h
    cases h
  | ok found =>
    obtain ⟨area, s⟩ := found
    simp only [hlook] at h
    cases hm : w.decide g area s with
    | wait | finish | escalate | deadEnd =>
      rw [hm] at h
      cases h
    | goto id =>
      rw [hm] at h
      cases h
      exact .inl (by simp)
    | enter scope =>
      have hruns := runs_of_decide_eq_enter hm
      simp only [hm, make, note_conversation] at h
      split at h <;> cases h
      exact .inr (.inr ⟨area, s, scope, rfl, hruns, rfl⟩)
    | leave =>
      simp only [hm, make, note_conversation] at h
      split at h <;> cases h
      exact .inr (.inl ⟨_, by assumption⟩)

/-- A walk stops where it is. -/
theorem position_of_step (h : ∀ v, w.step g ≠ .moved v) :
    (w.step g).walker.conversation.position = w.conversation.position := by
  unfold step at h ⊢
  cases hlook : look g w.conversation with
  | error fault => rfl
  | ok found =>
    obtain ⟨area, s⟩ := found
    simp only [hlook] at h ⊢
    cases hm : w.decide g area s with
    | wait | finish | escalate | deadEnd => simp [make, Progress.walker]
    | goto id => exact absurd (by rw [hm]; rfl) (h _)
    | enter scope =>
      simp only [hm, make] at h ⊢
      split
      · simp [Progress.walker]
      · rename_i inner hinner
        rw [hinner] at h
        exact absurd rfl (h _)
    | leave =>
      simp only [hm, make] at h ⊢
      split
      · simp [Progress.walker]
      · rename_i f r hstack
        rw [hstack] at h
        exact absurd rfl (h _)

/-- **A step recalls the frames that it leaves.** -/
theorem recalls_of_step {past : List Walker} (h : w.step g = .moved v)
    (hw : g.Recalls past w.conversation.position.stack) :
    g.Recalls (past ++ [w]) v.conversation.position.stack := by
  rcases stack_of_step h with hstack | ⟨f, hstack⟩ | ⟨area, s, scope, hlook, hruns, hstack⟩
  · rw [hstack]
    exact hw.later
  · exact hw.later.of_suffix (hstack ▸ List.suffix_cons f _)
  · obtain ⟨harea, hs⟩ := look_eq_ok hlook
    intro f outer hf
    rw [hstack, List.suffix_cons_iff] at hf
    rcases hf with hf | hf
    · -- this frame is the one that is entered now
      cases hf
      have hpushes : w.Pushes g ⟨scope, w.conversation.position.node⟩
          w.conversation.position.stack :=
        ⟨rfl, v, h, hstack⟩
      refine ⟨area, s, harea, hs, ?_⟩
      cases hruns with
      | call hkind hsubgraph => exact ⟨hkind, .inl hsubgraph⟩
      | follow hkind _ hlocked hpath => exact ⟨hkind, .inr ⟨w, _, .pushed hpushes, hlocked, hpath⟩⟩
    · exact hw.later f outer hf

end Walker

/-- What is recalled before a walk is recalled after it, with the moments of the walk. -/
theorem walk_recalls {n : ℕ} {w : Walker} {past : List Walker}
    (h : g.Recalls past w.conversation.position.stack) :
    g.Recalls (past ++ moments g n w) (walk g n w).1.conversation.position.stack := by
  induction n generalizing w past with
  | zero => simpa [moments, walk] using h
  | succ n ih =>
    have hrests := w.position_of_step (g := g)
    unfold walk moments
    cases hstep : w.step g with
    | moved v =>
      simp only
      rw [List.append_cons]
      exact ih (Walker.recalls_of_step hstep h)
    | rested v | failed fault v =>
      rw [hstep] at hrests
      have hposition : v.conversation.position = w.conversation.position := hrests (by simp)
      simp only [hposition]
      exact h.later

/-! ### Runs -/

/-- A path that is locked stays locked whatever is signalled. -/
theorem PolicySettings.locked?_observe (p : PolicySettings Binary64) {s : PathState Binary64}
    {path : PathId} (h : s.locked? = some path) (signal : Option PathId) :
    (p.observe s signal).1.locked? = some path := by
  have hlocked : s.isLocked = true := by
    unfold PathState.locked? at h
    split at h
    · assumption
    · cases h
  cases signal <;> simpa [observe, hlocked] using h

namespace Engine

variable {e : Engine} {calls : List Call} {past : List Walker} {c : Conversation}

theorem History.recalls (h : e.History g calls past c) : g.Recalls past c.position.stack := by
  induction h with
  | start context =>
    have hopened :
        g.Recalls [] (opened g ((g.area? .root).elim "" Area.entry) context).position.stack := by
      intro f outer hf
      cases List.suffix_nil.1 hf
    have hwalk := walk_recalls (n := e.traversal.maxAutoSteps) (w := ⟨_, {}, false⟩) hopened
    rwa [List.nil_append] at hwalk
  | walks _ hd ih =>
    rw [← hd.stack_eq] at ih
    exact walk_recalls (w := ⟨_, {}, _⟩) ih
  | stays _ hs ih => rwa [hs.position_eq]

/-- What a call does to the choice of a path: unless it is an override, a path that is locked stays
locked. -/
theorem Departs.locked?_eq {k : Call} {c₁ : Conversation} {passing : Bool} {review : Review}
    {path : PathId} (h : e.Departs g c k c₁ passing review) (hk : ∀ path, k ≠ .overridePath path)
    (hc : c.path.locked? = some path) :
    c₁.path.locked? = some path := by
  cases h with
  | turn => exact e.policy.locked?_observe hc _
  | resumeAt | resume => exact hc
  | overridePath => exact absurd rfl (hk _)

theorem Stays.locked?_eq {k : Call} {r : Reply} {path : PathId} (h : e.Stays g c k r)
    (hk : ∀ path, k ≠ .overridePath path) (hc : c.path.locked? = some path) :
    r.conversation.path.locked? = some path := by
  cases h with
  | suspended | held => exact e.policy.locked?_observe hc _
  | overridden => exact absurd rfl (hk _)
  | idle | notEscalated | missingScope | notInScope | notOffered => exact hc

/-- Without overrides, a path that was locked at some moment of a run is locked at its end. -/
theorem History.locked?_eq (h : e.History g calls past c)
    (hcalls : ∀ path, .overridePath path ∉ calls) {w : Walker} (hw : w ∈ past) {path : PathId}
    (hpath : w.conversation.path.locked? = some path) :
    c.path.locked? = some path := by
  induction h with
  | start context =>
    rw [(follows_of_mem_moments hw).path_eq] at hpath
    rwa [Engine.start, advance_conversation, (walk_follows g _ _).path_eq]
  | @walks calls past c c₁ k passing review decision _ hd ih =>
    -- a walk leaves the choice of a path alone, so only the call before it matters
    rw [advance_conversation, (walk_follows g _ _).path_eq]
    rcases List.mem_append.1 hw with hw | hw
    · have hbefore := ih (fun path hmem => hcalls path (List.mem_append_left _ hmem)) hw
      exact hd.locked?_eq (fun path hk => hcalls path (by simp [hk])) hbefore
    · rwa [(follows_of_mem_moments hw).path_eq] at hpath
  | @stays calls past c k r _ hs ih =>
    have hbefore := ih (fun path hmem => hcalls path (List.mem_append_left _ hmem)) hw
    exact hs.locked?_eq (fun path hk => hcalls path (by simp [hk])) hbefore

end Engine

/-! ### Scopes on the stack -/

/-- No node that enters subgraphs is re-entrant. -/
def Flow.HasPlainCalls (f : Flow) : Prop :=
  ∀ p ∈ f.scopes, ∀ n ∈ p.2.nodes, n.kind = .subgraphRef → n.reentrant = false

/-- The steps of a compiled flow are its nodes. -/
theorem Host.compile_step_node {host : Host} {f : Flow} (h : host.compile f = .ok g) {a : Area}
    (ha : a ∈ g.areas) {s : Step} (hs : s ∈ a.steps) : ∃ p ∈ f.scopes, s.node ∈ p.2.nodes := by
  obtain ⟨p, hp, hpa⟩ := exists_of_forall₂_right (Host.compile_eq_ok h).2.2 ha
  refine ⟨p, hp, ?_⟩
  rw [← compileArea_nodes hpa]
  exact List.mem_map_of_mem hs

namespace Graph.Recalls

variable {past : List Walker} {frames : List Frame}

/-- The scope around a frame has a node that leads into it. -/
theorem leads (h : g.Recalls past frames) {f : Frame} {outer : List Frame}
    (hf : f :: outer <:+ frames) :
    ∃ a s, g.area? (stackScope outer) = some a ∧ s ∈ a.steps ∧ s.node.kind = .subgraphRef ∧
      f.scope ∈ s.targets := by
  obtain ⟨a, s, ha, hs, hkind, hleads⟩ := h f outer hf
  refine ⟨a, s, ha, Area.step?_mem hs, hkind, ?_⟩
  rw [Step.targets, List.mem_append, Option.mem_toList, List.mem_map]
  refine hleads.imp (fun hfixed => hfixed) ?_
  rintro ⟨w, path, -, -, hpath⟩
  obtain ⟨p, hfind, hscope⟩ := Option.map_eq_some_iff.1 hpath
  exact ⟨p, List.mem_of_find?_eq_some hfind, hscope⟩

/-- All scopes around a conversation exist. -/
theorem subset_scopeIds (hg : g.IsClosed) (h : g.Recalls past frames) :
    frames.map Frame.scope ++ [ScopeId.root] ⊆ g.scopeIds := by
  induction frames with
  | nil => simpa using hg.root
  | cons f r ih =>
    obtain ⟨a, s, ha, hs, -, htarget⟩ := h.leads List.suffix_rfl
    exact List.cons_subset.2
      ⟨(hg.areas a (area?_mem ha)).targets s hs _ htarget, ih (h.of_suffix (List.suffix_cons f r))⟩

/-- A rank that is lower in each scope that is entered is lower in each scope than in those around
it. -/
theorem isChain {rank : ScopeId → ℕ}
    (hrank : ∀ s a step t, g.area? s = some a → step ∈ a.steps → step.node.kind = .subgraphRef →
      t ∈ step.targets →
      rank t < rank s) (h : g.Recalls past frames) :
    (frames.map Frame.scope ++ [ScopeId.root]).IsChain fun inner outer =>
        rank inner < rank outer := by
  induction frames with
  | nil => exact .singleton _
  | cons f r ih =>
    obtain ⟨a, s, ha, hs, hkind, htarget⟩ := h.leads List.suffix_rfl
    have houter : rank f.scope < rank (stackScope r) := hrank _ a s _ ha hs hkind htarget
    have hrest := ih (h.of_suffix (List.suffix_cons f r))
    cases r with
    | nil => exact .cons_cons houter hrest
    | cons f' r => exact .cons_cons houter hrest

/-- **Unless a node that enters subgraphs is re-entrant, no scope is entered from inside
itself.** -/
theorem nodup {host : Host} {f : Flow} (hg : host.compile f = .ok g) (hf : f.HasPlainCalls)
    (h : g.Recalls past frames) : (frames.map Frame.scope ++ [ScopeId.root]).Nodup := by
  have hclosed : g.IsClosed := Graph.IsCompiled.isClosed ⟨host, f, hg⟩
  obtain ⟨rank, -, hrank⟩ := Graph.exists_scopeRank hclosed (Host.compile_checks hg).1
  have hchain : (frames.map Frame.scope ++ [ScopeId.root]).IsChain fun inner outer =>
      rank inner < rank outer := by
    refine h.isChain fun s a step t ha hstep hkind ht => hrank s a step t ha hstep ?_ ht
    obtain ⟨p, hp, hn⟩ := Host.compile_step_node hg (area?_mem ha) hstep
    exact hf p hp step.node hn hkind
  have : Trans (fun inner outer => rank inner < rank outer)
      (fun inner outer => rank inner < rank outer)
    (fun inner outer => rank inner < rank outer) := ⟨fun h h' => h.trans h'⟩
  exact hchain.pairwise.imp fun hlt heq => (heq ▸ hlt).false

end Graph.Recalls

theorem compileNode_mem_paths {host : Host} {known : List ScopeId} {scope target : ScopeId}
    {n : Node} {s : Step} (h : compileNode host known scope n = .ok s) {path : PathId}
    (hpath : s.pathScope? path = some target) :
    path ∈ n.paths := by
  obtain ⟨p, hfind, -⟩ := Option.map_eq_some_iff.1 hpath
  obtain ⟨name, hname, hp, -⟩ :=
    exists_of_forall₂_right (compileNode_eq_ok h).2.2 (List.mem_of_find?_eq_some hfind)
  have hpath : p.1 = path := by simpa using List.find?_some hfind
  rwa [← hpath, hp]

/-- The paths that a step of a compiled flow leads along are those that its node offers. -/
theorem Host.compile_mem_paths {host : Host} {f : Flow} (h : host.compile f = .ok g) {a : Area}
    (ha : a ∈ g.areas) {s : Step} (hs : s ∈ a.steps) {path : PathId} {target : ScopeId}
    (hpath : s.pathScope? path = some target) :
    path ∈ s.node.paths := by
  obtain ⟨p, -, hpa⟩ := exists_of_forall₂_right (Host.compile_eq_ok h).2.2 ha
  obtain ⟨n, -, hn⟩ := exists_of_forall₂_right (compileArea_steps hpa) hs
  rw [(compileNode_eq_ok hn).1]
  exact compileNode_mem_paths hn hpath

namespace Engine

/-- **The frames mirror the calls of the flow.**  After every run, the caller of each frame is a
node of the scope around it that leads into the scope of the frame: as its fixed subgraph, or as a
fork that offers it for the path that was locked when the frame was entered, which is the path that
is locked now unless a path was overridden.  Unless a node that enters subgraphs is re-entrant, the
scopes of the frames are distinct and none is the root, so there are fewer frames than scopes. -/
theorem frames_mirror_calls {host : Host} {f : Flow} (hg : host.compile f = .ok g) (e : Engine)
    (context : Dict Json) (calls : List Call) :
    ∃ past, e.History g calls past (e.run g context calls) ∧
      (∀ frame outer, frame :: outer <:+ (e.run g context calls).position.stack →
        ∃ a s, g.area? (stackScope outer) = some a ∧ a.step? frame.caller = some s ∧
          s.node.kind = .subgraphRef ∧
          (s.subgraph = some frame.scope ∨
            ∃ w path, EnteredAt g past frame outer w ∧ w.conversation.path.locked? = some path ∧
              path ∈ s.node.paths ∧ s.pathScope? path = some frame.scope ∧
              ((∀ other, .overridePath other ∉ calls) →
                (e.run g context calls).path.locked? = some path))) ∧
      (f.HasPlainCalls →
        ((e.run g context calls).position.stack.map Frame.scope).Nodup ∧
          ScopeId.root ∉ (e.run g context calls).position.stack.map Frame.scope ∧
          (e.run g context calls).position.stack.length < f.scopes.length) := by
  obtain ⟨past, hpast⟩ := e.exists_history g context calls
  have hrecalls := hpast.recalls
  have hcompiled : g.IsCompiled := ⟨host, f, hg⟩
  generalize e.run g context calls = c at hpast hrecalls ⊢
  refine ⟨past, hpast, fun frame outer hframe => ?_, fun hf => ?_⟩
  · obtain ⟨a, s, ha, hs, hkind, hleads⟩ := hrecalls frame outer hframe
    refine ⟨a, s, ha, hs, hkind, hleads.imp_right ?_⟩
    rintro ⟨w, path, hentered, hlocked, hscope⟩
    have hoffered := Host.compile_mem_paths hg (Graph.area?_mem ha) (Area.step?_mem hs) hscope
    exact ⟨w, path, hentered, hlocked, hoffered, hscope,
      fun hcalls => hpast.locked?_eq hcalls hentered.mem hlocked⟩
  · have hnodup := hrecalls.nodup hg hf
    obtain ⟨hdistinct, -, hroot⟩ := List.nodup_append.1 hnodup
    refine ⟨hdistinct, fun hmem => hroot _ hmem _ List.mem_cons_self rfl, ?_⟩
    -- the root and the scopes of the frames are distinct scopes of the flow
    have hlength := (hnodup.subperm (hrecalls.subset_scopeIds hcompiled.isClosed)).length_le
    rw [Host.compile_scopeIds hg, List.length_map, List.length_append, List.length_map,
      List.length_singleton]
      at hlength
    exact hlength

end Engine

namespace Samples

/-- A fork with one path, along which a question is asked. -/
def crossroads : Flow where
  id := "crossroads"
  version := 1
  nodes := [.pathFork "fork" ["left"] "Which way?", .terminal "end"]
  edges := [.always "fork" "end"]
  subgraphs :=
    [("left", { nodes := [.question "where" "place" "Where to?"], edges := [.exit "where"] })]

/-- The graph of `crossroads`. -/
def crossroadsGraph : Graph where
  flow := crossroads
  areas := [
    { id := .root
      entry := "fork"
      steps := [
        ⟨.pathFork "fork" ["left"] "Which way?", none, none, none, [("left", ⟨"left"⟩)]⟩,
        ⟨.terminal "end", none, none, none, []⟩]
      links := [⟨0, "fork", .node "end", .always, false⟩]
      invalidTargets := [] },
    { id := ⟨"left"⟩
      entry := "where"
      steps := [⟨.question "where" "place" "Where to?", none, none, none, []⟩]
      links := [⟨0, "where", .exit, .always, false⟩]
      invalidTargets := [] }]
  warnings := []
  predicates := .builtin

theorem compile_crossroads : Host.builtin.compile crossroads = .ok crossroadsGraph :=
  Host.compile_of_passes rfl rfl (by decide) (by with_unfolding_all rfl) rfl rfl rfl

/-- One signal is enough to lock a path. -/
def eager : Engine :=
  { Engine.ofSettings {} with policy := { PolicySettings.standard with lockThreshold := .ofNat 1 } }

/-- The turn that signals the path enters it, and the conversation is inside it from then on. -/
theorem crossroads_mirrored :
    Host.builtin.compile crossroads = .ok crossroadsGraph ∧ crossroads.HasPlainCalls ∧
      (eager.run crossroadsGraph [] [.turn (signalTurn "left")]).position =
        ⟨"where", [⟨⟨"left"⟩, "fork"⟩]⟩ ∧
      (eager.run crossroadsGraph [] [.turn (signalTurn "left")]).path.locked? = some "left" ∧
      ∃ past w, eager.History crossroadsGraph [.turn (signalTurn "left")] past
          (eager.run crossroadsGraph [] [.turn (signalTurn "left")]) ∧
        EnteredAt crossroadsGraph past ⟨⟨"left"⟩, "fork"⟩ [] w ∧
        w.conversation.path.locked? = some "left" := by
  have hposition : (eager.run crossroadsGraph [] [.turn (signalTurn "left")]).position =
      ⟨"where", [⟨⟨"left"⟩, "fork"⟩]⟩ := by decide +kernel
  have hplain : crossroads.HasPlainCalls := by
    unfold Flow.HasPlainCalls
    decide
  obtain ⟨past, hpast, hframes, -⟩ :=
    Engine.frames_mirror_calls compile_crossroads eager [] [.turn (signalTurn "left")]
  obtain ⟨a, s, ha, hs, -, hleads⟩ := hframes ⟨⟨"left"⟩, "fork"⟩ [] (by rw [hposition])
  cases ha
  cases hs
  rcases hleads with hfixed | ⟨w, path, hentered, hlocked, hpath, -, hnow⟩
  · cases hfixed
  · cases List.mem_singleton.1 hpath
    exact ⟨compile_crossroads, hplain, hposition, hnow (by simp), past, w, hpast, hentered, hlocked⟩

end Samples

end Parley

import Parley.Proofs.Conversation.Answers
import Parley.Proofs.Conversation.Placement

/-!
# Suspended conversations

A conversation that has ended, or that waits for a person, stays as it is whatever is demanded of it
and with whichever version of its flow, until a call to resume it succeeds.  In the meantime an
override may lock another path, and a move may pin it to a newer version, but neither makes it go
on.

* `Demand`, `Engine.perform`, `Engine.performAll`: what may be demanded, and whether it succeeds;
* `Engine.Leaves`, `Engine.perform_leaves`: all that a demand does to a suspended conversation;
* `Engine.suspended_stays`.
-/

namespace Parley

variable {g : Graph}

/-- What may be demanded of a conversation: a call with some version of its flow, or a move to
another version. -/
inductive Demand
  | call (g : Graph) (k : Call)
  | repin (next : Graph)

/-- The version with which a demand comes. -/
def Demand.graph : Demand → Graph
  | .call g _ => g
  | .repin next => next

namespace Engine

variable {e : Engine} {c : Conversation}

/-- The conversation after a demand, and whether the demand has succeeded. -/
def perform (e : Engine) (c : Conversation) : Demand → Conversation × Bool
  | .call g k => ((e.call g c k).conversation, (e.call g c k).result.isOk)
  | .repin next =>
      match repin next c with
      | .ok c' => (c', true)
      | .error _ => (c, false)

/-- The conversation after demands one after the other, and which of them have succeeded. -/
def performAll (e : Engine) (c : Conversation) : List Demand → Conversation × List (Demand × Bool)
  | [] => (c, [])
  | d :: ds =>
      let (c', succeeded) := e.perform c d
      let (c', log) := e.performAll c' ds
      (c', (d, succeeded) :: log)

theorem perform_call (e : Engine) (c : Conversation) (g : Graph) (k : Call) :
    e.perform c (.call g k) = ((e.call g c k).conversation, (e.call g c k).result.isOk) := rfl

theorem performAll_cons (e : Engine) (c : Conversation) (d : Demand) (ds : List Demand) :
    e.performAll c (d :: ds) =
      ((e.performAll (e.perform c d).1 ds).1, (d, (e.perform c d).2) ::
        (e.performAll (e.perform c d).1 ds).2) :=
  rfl

/-! ### One demand -/

/-- With another graph than that of its version a call is refused, and the conversation is left as
it is. -/
theorem call_of_not_pinnedTo (h : ¬ c.PinnedTo g) (k : Call) :
    e.call g c k = ⟨c, .error (.otherGraph c.flow c.version g.id g.version)⟩ := by
  have hcheck : checkPinned g c = .error (.otherGraph c.flow c.version g.id g.version) :=
    if_neg fun hboth => h ⟨hboth.1, hboth.2⟩
  cases k <;> simp only [call, turn, resume, overridePath, pinned, hcheck]

/-- A call to resume a conversation that has succeeded. -/
def IsResumption (entry : Demand × Bool) : Prop :=
  ∃ g target, entry = (.call g (.resume target), true)

/-- All that a demand does to a suspended conversation, unless it resumes it: an override locks a
path, and a move pins the conversation to another version. -/
inductive Leaves (c : Conversation) : Demand → Conversation × Bool → Prop
  | unchanged {d : Demand} {succeeded : Bool} : Leaves c d (c, succeeded)
  | locked {g : Graph} {path : PathId} :
      Leaves c (.call g (.overridePath path))
        ({ c with path := (PolicySettings.override c.path path).1 }, true)
  | repinned {next : Graph} : c.position.LiesIn next → next.id = c.flow →
      Leaves c (.repin next) ({ c with version := next.version }, true)

/-- Only a call to resume makes a suspended conversation go on, and it succeeds. -/
theorem Departs.isResumption {k : Call} {c₁ : Conversation} {passing : Bool} {review : Review}
    {path : PathDecision} (hd : e.Departs g c k c₁ passing review) (hg : g.IsClosed)
    (hc : c.IsPlaced g) (hs : c.status ≠ .awaitingInput)
    (hr : e.call g c k = e.advance g c₁ passing review path) :
    c.status.isTerminal = false ∧ IsResumption (.call g k, (e.perform c (.call g k)).2) := by
  obtain ⟨o, ho⟩ := (advance_isPlaced (e := e) hg (hd.isPlaced hc) passing review path).2
  have hsucceeds : (e.perform c (.call g k)).2 = true := by
    rw [perform_call, hr, ho]
    rfl
  rw [hsucceeds]
  cases hd with
  | turn h | overridePath h => exact absurd h hs
  | resumeAt h | resume h => exact ⟨by rw [h]; rfl, _, _, rfl⟩

theorem call_leaves (hg : g.IsClosed) (hc : c.PinnedTo g → c.IsPlaced g)
    (hs : c.status ≠ .awaitingInput) {k : Call} (hresume :
      c.status.isTerminal = true ∨ ¬ IsResumption (.call g k, (e.perform c (.call g k)).2)) :
    Leaves c (.call g k) (e.perform c (.call g k)) := by
  by_cases hpinned : c.PinnedTo g
  · rcases call_cases (e := e) hpinned k with ⟨c₁, passing, review, path, hd, hr⟩ | hstays
    · obtain ⟨hterminal, hresumes⟩ := hd.isResumption hg (hc hpinned) hs hr
      rcases hresume with h | h
      · cases hterminal.symm.trans h
      · exact absurd hresumes h
    · rw [perform_call]
      generalize e.call g c k = r at hstays
      cases hstays with
      | idle | notEscalated | missingScope | notInScope | notOffered => exact .unchanged
      | overridden => exact .locked
      | suspended h | held h => exact absurd h hs
  · rw [perform_call, call_of_not_pinnedTo hpinned]
    exact .unchanged

theorem repin_leaves (e : Engine) (c : Conversation) (next : Graph) :
    Leaves c (.repin next) (e.perform c (.repin next)) := by
  cases hr : repin next c with
  | error fault =>
    have hperform : e.perform c (.repin next) = (c, false) := by simp only [perform, hr]
    rw [hperform]
    exact .unchanged
  | ok c' =>
    have hperform : e.perform c (.repin next) = (c', true) := by simp only [perform, hr]
    obtain ⟨⟨hid, -, hposition⟩, rfl⟩ := repin_eq_ok.1 hr
    rw [hperform]
    exact .repinned hposition hid

/-! ### Demands one after the other -/

/-- The versions of a flow: each number stands for one compiled graph. -/
structure AreVersions (versions : Set Graph) : Prop where
  compiled : ∀ g ∈ versions, g.IsCompiled
  distinct : versions.InjOn fun g => (g.id, g.version)

variable {versions : Set Graph}

/-- A suspended conversation lies in the version that it is pinned to, and a demand leaves it
there. -/
theorem perform_leaves (hversions : AreVersions versions) (hg : g ∈ versions) (hc : c.IsPlaced g)
    (hs : c.status ≠ .awaitingInput) {d : Demand} (hgraph : d.graph ∈ versions)
    (hresume : c.status.isTerminal = true ∨ ¬ IsResumption (d, (e.perform c d).2)) :
    Leaves c d (e.perform c d) ∧ ∃ g' ∈ versions, (e.perform c d).1.IsPlaced g' := by
  have hleaves : Leaves c d (e.perform c d) := by
    cases d with
    | repin next => exact repin_leaves e c next
    | call g' k =>
      refine call_leaves (hversions.compiled g' hgraph).isClosed (fun hpinned => ?_) hs hresume
      -- the version that the conversation is pinned to is the one in which it lies
      have hsame : g' = g := hversions.distinct hgraph hg
        (Prod.ext (hpinned.flow.trans hc.flow.symm) (hpinned.version.trans hc.version.symm))
      rwa [hsame]
  refine ⟨hleaves, ?_⟩
  generalize e.perform c d = r at hleaves
  cases hleaves with
  | unchanged => exact ⟨g, hg, hc⟩
  | locked => exact ⟨g, hg, ⟨hc.flow, hc.version⟩, hc.position⟩
  | repinned hposition hid => exact ⟨_, hgraph, ⟨hid, rfl⟩, hposition⟩

/-- The second conversation is the first one, perhaps with another locked path and pinned to another
version, if demands that may do so have succeeded. -/
structure Keeps (log : List (Demand × Bool)) (c c' : Conversation) : Prop where
  same : c' = { c with path := c'.path, version := c'.version }
  path : c'.path = c.path ∨ ∃ g path, (.call g (.overridePath path), true) ∈ log
  version : c'.version = c.version ∨ ∃ next, (.repin next, true) ∈ log

theorem Leaves.keeps {d : Demand} {r : Conversation × Bool} (h : Leaves c d r) :
    Keeps [(d, r.2)] c r.1 := by
  cases h with
  | unchanged => exact ⟨rfl, .inl rfl, .inl rfl⟩
  | locked => exact ⟨rfl, .inr ⟨_, _, List.mem_singleton_self _⟩, .inl rfl⟩
  | repinned => exact ⟨rfl, .inl rfl, .inr ⟨_, List.mem_singleton_self _⟩⟩

theorem Keeps.trans {log log' : List (Demand × Bool)} {c' c'' : Conversation} (h : Keeps log c c')
    (h' : Keeps log' c' c'') : Keeps (log ++ log') c c'' := by
  refine ⟨?_, ?_, ?_⟩
  · rw [h'.same, h.same]
  · rcases h'.path with hpath | ⟨g, path, hmem⟩
    · rw [hpath]
      exact h.path.imp_right fun ⟨g, path, hmem⟩ => ⟨g, path, List.mem_append_left _ hmem⟩
    · exact .inr ⟨g, path, List.mem_append_right _ hmem⟩
  · rcases h'.version with hversion | ⟨next, hmem⟩
    · rw [hversion]
      exact h.version.imp_right fun ⟨next, hmem⟩ => ⟨next, List.mem_append_left _ hmem⟩
    · exact .inr ⟨next, List.mem_append_right _ hmem⟩

theorem performAll_keeps (hversions : AreVersions versions) (hg : g ∈ versions) (hc : c.IsPlaced g)
    (hs : c.status ≠ .awaitingInput) {ds : List Demand} (hgraphs : ∀ d ∈ ds, d.graph ∈ versions)
    (hresume : c.status.isTerminal = true ∨ ∀ entry ∈ (e.performAll c ds).2, ¬ IsResumption entry) :
    Keeps (e.performAll c ds).2 c (e.performAll c ds).1 := by
  induction ds generalizing g c with
  | nil => exact ⟨rfl, .inl rfl, .inl rfl⟩
  | cons d ds ih =>
    rw [performAll_cons] at hresume ⊢
    obtain ⟨hgraph, hgraphs⟩ := List.forall_mem_cons.1 hgraphs
    have hfirst : c.status.isTerminal = true ∨ ¬ IsResumption (d, (e.perform c d).2) :=
      hresume.imp_right fun h => h _ List.mem_cons_self
    obtain ⟨hleaves, g', hg', hc'⟩ := perform_leaves (e := e) hversions hg hc hs hgraph hfirst
    have hkeeps := hleaves.keeps
    have hstatus : (e.perform c d).1.status = c.status := by rw [hkeeps.same]
    refine hkeeps.trans (ih hg' hc' (by rwa [hstatus]) hgraphs ?_)
    rw [hstatus]
    exact hresume.imp_right fun h entry hentry => h entry (List.mem_cons_of_mem _ hentry)

/-- **Suspended conversations stay suspended.**  From every conversation that has ended, any demands
with any versions of its flow, whether they succeed or fail, leave its status, its position, its
turns, its answers and its context as they are; and from every conversation that waits for a person,
so do any demands among which no call to resume it succeeds.  The locked path changes only if an
override succeeds, and the version only if a move does. -/
theorem suspended_stays (hversions : AreVersions versions) (h : e.Reaches versions g c)
    (hs : c.status ≠ .awaitingInput) {ds : List Demand} (hgraphs : ∀ d ∈ ds, d.graph ∈ versions)
    (hresume : c.status.isTerminal = true ∨
      ∀ g target, (.call g (.resume target), true) ∉ (e.performAll c ds).2) :
    let c' := (e.performAll c ds).1
    let log := (e.performAll c ds).2
    c'.status = c.status ∧ c'.position = c.position ∧ c'.turn = c.turn ∧ c'.answers = c.answers ∧
      c'.context = c.context ∧ c'.flow = c.flow ∧
      ((∀ g path, (.call g (.overridePath path), true) ∉ log) → c'.path = c.path) ∧
      ((∀ next, (.repin next, true) ∉ log) → c'.version = c.version) := by
  have hkeeps : Keeps (e.performAll c ds).2 c (e.performAll c ds).1 := by
    refine performAll_keeps hversions h.mem (h.isPlaced hversions.compiled) hs hgraphs
      (hresume.imp_right ?_)
    rintro hnone entry hentry ⟨g, target, rfl⟩
    exact hnone g target hentry
  intro c' log
  have hsame : c' = { c with path := c'.path, version := c'.version } := hkeeps.same
  refine ⟨by rw [hsame], by rw [hsame], by rw [hsame], by rw [hsame], by rw [hsame], by rw [hsame],
    fun hnone => ?_, fun hnone => ?_⟩
  · exact hkeeps.path.resolve_right fun ⟨g, path, hmem⟩ => hnone g path hmem
  · exact hkeeps.version.resolve_right fun ⟨next, hmem⟩ => hnone next hmem

end Engine

namespace Samples

theorem detour_areVersions : Engine.AreVersions {detourGraph 1, detourGraph 2} := by
  refine ⟨?_, ?_⟩
  · rintro g (rfl | rfl)
    · exact detourGraph_isCompiled 1
    · exact detourGraph_isCompiled 2
  · rintro g (rfl | rfl) g' (rfl | rfl) h
    · rfl
    · cases (Prod.mk.inj h).2
    · cases (Prod.mk.inj h).2
    · rfl

/-- What is demanded of a conversation on the first version of the detour while a person is waited
for: a turn, the move to the second version, and to be resumed on the wrong version and at a node of
another scope. -/
def detourDemands : List Demand :=
  [.call (detourGraph 1) (.turn readyTurn), .repin (detourGraph 2),
    .call (detourGraph 1) (.resume none), .call (detourGraph 2) (.resume (some "note"))]

/-- The wish for a person suspends the conversation, and the answer that comes after it is not
taken. -/
theorem detour_stays :
    let e := Engine.ofSettings {}
    let c := e.run (detourGraph 1) [] [.turn { escalate := true }]
    c.status = .escalated .requested ∧
      (e.performAll c detourDemands).2 = detourDemands.zip [true, true, false, false] ∧
      (e.performAll c detourDemands).1.status = .escalated .requested ∧
      (e.performAll c detourDemands).1.answers = [] := by
  intro e c
  have hreach : e.Reaches {detourGraph 1, detourGraph 2} (detourGraph 1) c :=
    Engine.reaches_run (Set.mem_insert _ _) [] _
  have hstatus : c.status = .escalated .requested := by decide +kernel
  have hlog : (e.performAll c detourDemands).2 = detourDemands.zip [true, true, false, false] := rfl
  have hgraphs : ∀ d ∈ detourDemands, d.graph ∈ ({detourGraph 1, detourGraph 2} : Set Graph) := by
    simp [detourDemands, Demand.graph]
  have hresume : ∀ g target, (.call g (.resume target), true) ∉
      (e.performAll c detourDemands).2 := by
    rw [hlog]
    simp [detourDemands]
  obtain ⟨hsame, -, -, hanswers, -⟩ :=
    Engine.suspended_stays detour_areVersions hreach (by rw [hstatus]; nofun) hgraphs
    (.inr hresume)
  exact ⟨hstatus, hlog, hsame.trans hstatus, hanswers.trans rfl⟩

end Samples

end Parley

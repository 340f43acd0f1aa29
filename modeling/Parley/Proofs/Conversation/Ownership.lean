import Parley.Proofs.Conversation.CallStack

/-!
# Whose validator an answer has passed

Answers are kept by key alone, while a key may be declared once in each scope.  A proposal goes to
the node that owns its key when it arrives, so a question may count as answered by what a node of
another scope has accepted.

* `Flow.Declares`, `Conversation.owner?_cases`: the node that owns a key, and one that declares it;
* `Engine.Visits`: the steps that a run takes after its last call;
* `Walker.PassesAnswered`: a question is left because it counts as answered;
* `Engine.answered_by_owner`.
-/

namespace Parley

variable {g : Graph} {key : AnswerKey}

/-! ### Owners -/

/-- A node of a scope has a key. -/
def Flow.Declares (f : Flow) (key : AnswerKey) (scope : ScopeId) : Prop :=
  ∃ p ∈ f.scopes, p.1 = scope ∧ ∃ n ∈ p.2.nodes, n.key = some key

theorem Area.ownerOf?_mem {a : Area} {owner : Step} (h : a.ownerOf? key = some owner) :
    owner ∈ a.steps ∧ owner.node.key = some key :=
  ⟨List.mem_of_find?_eq_some h, by simpa using List.find?_some h⟩

theorem Conversation.owner?_eq_some {c : Conversation} {area : Area} {owner : Step}
    (h : c.owner? g key = some (area, owner)) : g.area? area.id = some area ∧
    area.ownerOf? key = some owner := by
  obtain ⟨scope, -, hscope⟩ := List.exists_of_findSome?_eq_some h
  obtain ⟨found, harea, howner⟩ := Option.bind_eq_some_iff.1 hscope
  obtain ⟨s, hs, hpair⟩ := Option.map_eq_some_iff.1 howner
  cases hpair
  rw [Graph.area?_id harea]
  exact ⟨harea, hs⟩

section Compiled

variable {host : Host} {f : Flow} (hg : host.compile f = .ok g)

include hg

/-- A scope declares the keys of its steps. -/
theorem Host.compile_declares_iff {scope : ScopeId} : f.Declares key scope ↔
    ∃ a ∈ g.areas, a.id = scope ∧ ∃ s ∈ a.steps, s.node.key = some key := by
  have hareas := (Host.compile_eq_ok hg).2.2
  constructor
  · rintro ⟨p, hp, rfl, n, hn, hkey⟩
    obtain ⟨a, ha, hpa⟩ := exists_of_forall₂_right hareas.flip hp
    rw [← compileArea_nodes hpa] at hn
    obtain ⟨s, hs, rfl⟩ := List.mem_map.1 hn
    exact ⟨a, ha, (compileArea_eq_ok hpa).1, s, hs, hkey⟩
  · rintro ⟨a, ha, rfl, s, hs, hkey⟩
    obtain ⟨p, hp, hpa⟩ := exists_of_forall₂_right hareas ha
    refine ⟨p, hp, (compileArea_eq_ok hpa).1.symm, s.node, ?_, hkey⟩
    rw [← compileArea_nodes hpa]
    exact List.mem_map_of_mem hs

theorem Conversation.declares_of_owner? {c : Conversation} {area : Area} {owner : Step}
    (h : c.owner? g key = some (area, owner)) : f.Declares key area.id := by
  obtain ⟨harea, howner⟩ := owner?_eq_some h
  exact (Host.compile_declares_iff hg).2
    ⟨area, Graph.area?_mem harea, rfl, owner, Area.ownerOf?_mem howner⟩

/-- No two nodes of a scope have the same key. -/
theorem Host.compile_key_inj {a : Area} (ha : a ∈ g.areas) {s s' : Step} (hs : s ∈ a.steps)
    (hs' : s' ∈ a.steps) (hkey : s.node.key = some key) (hkey' : s'.node.key = some key) :
    s = s' := by
  obtain ⟨p, -, hpa⟩ := exists_of_forall₂_right (Host.compile_eq_ok hg).2.2 ha
  have hkeys := (exists_compileArea_iff.1 ⟨a, hpa⟩).keys
  rw [← compileArea_nodes hpa, List.filterMap_map, List.Nodup, List.pairwise_filterMap] at hkeys
  have hapart : a.steps.Pairwise fun s s' => ¬ (s.node.key = some key ∧ s'.node.key = some key) :=
    hkeys.imp fun hne ⟨hk, hk'⟩ => hne key hk key hk' rfl
  have : Std.Symm fun s s' : Step => ¬ (s.node.key = some key ∧ s'.node.key = some key) :=
    ⟨fun _ _ h hk => h hk.symm⟩
  by_contra hne
  exact hapart.forall hs hs' hne ⟨hkey, hkey'⟩

/-- The node of a scope that has a key is the one that is found there. -/
theorem Host.compile_ownerOf?_eq_some_iff {a : Area} (ha : a ∈ g.areas) {s : Step} :
    a.ownerOf? key = some s ↔ s ∈ a.steps ∧ s.node.key = some key := by
  refine ⟨Area.ownerOf?_mem, fun ⟨hs, hkey⟩ => ?_⟩
  obtain ⟨found, hfound⟩ : ∃ found, a.ownerOf? key = some found := by
    rw [← Option.isSome_iff_exists, Area.ownerOf?, List.find?_isSome]
    exact ⟨s, hs, by simpa using hkey⟩
  obtain ⟨hmem, hkey'⟩ := Area.ownerOf?_mem hfound
  rw [hfound, Host.compile_key_inj hg ha hmem hs hkey' hkey]

/-- A node owns its key, unless a node of another scope does while a conversation stands outside the
scope of the first. -/
theorem Conversation.owner?_cases {c : Conversation} {a area : Area} {s owner : Step}
    (ha : g.area? a.id = some a) (hs : s ∈ a.steps) (hkey : s.node.key = some key)
    (howner : c.owner? g key = some (area, owner)) :
    (area = a ∧ owner = s) ∨ (area.id ≠ a.id ∧ c.scope ≠ a.id) := by
  obtain ⟨harea, hfound⟩ := owner?_eq_some howner
  by_cases hid : area.id = a.id
  · rw [hid, ha] at harea
    cases harea
    obtain ⟨hmem, hdeclares⟩ := Area.ownerOf?_mem hfound
    exact .inl ⟨rfl, Host.compile_key_inj hg (Graph.area?_mem ha) hmem hs hdeclares hkey⟩
  · refine .inr ⟨hid, fun hscope => hid ?_⟩
    -- in its own scope the node would be found first
    rw [← hscope] at ha
    rw [owner?_of_scope ha
      ((Host.compile_ownerOf?_eq_some_iff hg (Graph.area?_mem ha)).2 ⟨hs, hkey⟩)] at howner
    cases howner
    rfl

end Compiled

/-! ### The steps of a run -/

/-- A walker takes a step after the last call of a run: in the walk with which the call goes on, or
in that of the opening while there is no call. -/
inductive Engine.Visits (e : Engine) (g : Graph) (context : Dict Json) : List Call → Walker → Prop
  | start {w : Walker} :
      w ∈ moments g e.traversal.maxAutoSteps
        ⟨opened g ((g.area? .root).elim "" Area.entry) context, {}, false⟩ →
      Visits e g context [] w
  | walks {calls : List Call} {k : Call} {c₁ : Conversation} {passing : Bool} {review : Review}
      {w : Walker} :
      e.Departs g (e.run g context calls) k c₁ passing review →
      w ∈ moments g e.traversal.maxAutoSteps ⟨c₁, {}, passing⟩ → Visits e g context (calls ++ [k]) w

namespace Engine

variable {e : Engine} {context : Dict Json} {calls : List Call} {w : Walker}

/-- The answers after a run are what its proposals add to none. -/
theorem run_answers_eq (e : Engine) (g : Graph) (context : Dict Json) (calls : List Call) :
    (e.run g context calls).answers = Conversation.addAll []
      ((e.proposed g (e.start g context).conversation calls).filterMap (e.storedBy g)) := by
  have hstart : (e.start g context).conversation.answers = [] := (walk_follows g _ _).answers_eq
  rw [run, after_answers (start_pinnedTo e g context), hstart]

/-- At each step of a walk, the proposals up to the call before it are stored. -/
theorem Visits.answers_eq (h : e.Visits g context calls w) :
    w.conversation.answers = Conversation.addAll []
      ((e.proposed g (e.start g context).conversation calls).filterMap (e.storedBy g)) := by
  cases h with
  | start hw => exact (follows_of_mem_moments hw).answers_eq
  | walks hd hw =>
    rw [(follows_of_mem_moments hw).answers_eq, hd.answers, run_answers_eq, proposed_concat,
      List.filterMap_append, Conversation.addAll_append]
    rfl

/-- Each answer that is there at a step was accepted for a proposal up to then. -/
theorem Visits.exists_accepts (h : e.Visits g context calls w) {a : Answer}
    (ha : w.conversation.answers.get? key = some a) :
    ∃ q ∈ e.proposed g (e.start g context).conversation calls, q.2.key = key ∧
      q.1.Accepts e.traversal g q.2 a := by
  rw [h.answers_eq, get?_addAll] at ha
  rcases ha with ⟨q, ⟨before, after, hq, -⟩, hstored⟩ | ⟨hnone, -⟩
  · exact ⟨q, by simp [hq], Conversation.entryFor?_eq_some.1 hstored⟩
  · cases hnone

end Engine

/-! ### Questions that are left -/

/-- A question is left because it counts as answered: it is eligible, it has not been run yet, and
there is an answer for its key. -/
structure Walker.PassesAnswered (g : Graph) (w : Walker) (area : Area) (s : Step) (key : AnswerKey)
    (a : Answer) : Prop where
  look : Walker.look g w.conversation = .ok (area, s)
  passing : w.passing = false
  eligible : s.isEligible g.predicates w.conversation.environment = true
  kind : s.node.kind = .question
  owns : s.node.key = some key
  answer : w.conversation.answers.get? key = some a

/-- Such a question is not asked; the walk takes a link from it. -/
theorem Walker.PassesAnswered.decide_eq {w : Walker} {area : Area} {s : Step} {a : Answer}
    (h : w.PassesAnswered g area s key a) : w.decide g area s = w.onward g area s := by
  rw [Walker.decide_eq, h.passing, h.eligible]
  simp [run, h.kind, h.owns, Dict.contains, h.answer]

namespace Engine

/-- **An answer was accepted by the node that owned its key.**  When a walk leaves a question
because it counts as answered, the value that is stored was made of a proposal up to then by the
node that owned the key as the proposal arrived.  This is the question itself, or else a node of
another scope that has the same key, while the conversation stood outside the scope of the question.
So the value comes from the validator of the question unless another scope declares its key. -/
theorem answered_by_owner {host : Host} {f : Flow} (hg : host.compile f = .ok g) (e : Engine)
    (context : Dict Json) (calls : List Call) {w : Walker} (hw : e.Visits g context calls w)
    {area : Area} {s : Step} {a : Answer} (hpasses : w.PassesAnswered g area s key a)
    {v : Validator} (hv : s.validator = some v) :
    w.decide g area s = w.onward g area s ∧
    ∃ q ∈ e.proposed g (e.start g context).conversation calls, q.2.key = key ∧
      ((q.1.owner? g key = some (area, s) ∧ v.accept q.2.value = .ok a.value) ∨
        ∃ other owner, q.1.owner? g key = some (other, owner) ∧
          owner.accept q.2.value = .ok a.value ∧
          f.Declares key other.id ∧ other.id ≠ area.id ∧ q.1.scope ≠ area.id) ∧
      ((∀ scope, f.Declares key scope → scope = area.id) → v.accept q.2.value = .ok a.value) := by
  refine ⟨hpasses.decide_eq, ?_⟩
  obtain ⟨harea, hs⟩ := Walker.look_eq_ok hpasses.look
  rw [← Graph.area?_id harea] at harea
  obtain ⟨q, hq, hkey, -, other, owner, value, howner, haccept, rfl⟩ :=
    hw.exists_accepts hpasses.answer
  rw [hkey] at howner
  refine ⟨q, hq, hkey, ?_⟩
  rcases Conversation.owner?_cases hg harea (Area.step?_mem hs) hpasses.owns howner with
    ⟨rfl, rfl⟩ | ⟨hother, hscope⟩
  · have hown : v.accept q.2.value = .ok value := by rwa [Step.accept, hv] at haccept
    exact ⟨.inl ⟨howner, hown⟩, fun _ => hown⟩
  · have hdeclares : f.Declares key other.id := Conversation.declares_of_owner? hg howner
    refine ⟨.inr ⟨other, owner, howner, haccept, hdeclares, hother, hscope⟩, fun honly => ?_⟩
    exact absurd (honly _ hdeclares) hother

end Engine

/-- A validator for whole numbers makes no truth values. -/
theorem Validator.acceptInteger_ne_bool (value : Json) (b : Bool) :
    acceptInteger value ≠ .ok (.bool b) := by
  intro h
  obtain ⟨x, -, h⟩ := bind_eq_ok.1 h
  split at h
  · rw [pure_eq_ok, ofNumber] at h
    cases hx : Number.ofBinary64? x <;> simp [hx] at h
  · cases h

namespace Samples

/-- Two questions with the same key in two scopes, and with different validators. -/
def renewal : Flow where
  id := "renewal"
  version := 1
  nodes := [
    (Node.question "renew" "choice" "Do you want to renew?").withValidator "boolean",
    .subgraphRef "call" "plan",
    .terminal "end"]
  edges := [.always "renew" "call", .always "call" "end"]
  subgraphs := [("plan", {
    nodes := [(Node.question "seats" "choice" "For how many seats?").withValidator "integer"]
    edges := [.exit "seats"] })]

/-- The first question of `renewal`. -/
def renew : Step :=
  ⟨(Node.question "renew" "choice" "Do you want to renew?").withValidator "boolean", none,
    some ⟨"boolean", Validator.acceptBoolean⟩, none, []⟩

/-- The second question of `renewal`. -/
def seats : Step :=
  ⟨(Node.question "seats" "choice" "For how many seats?").withValidator "integer", none,
    some ⟨"integer", Validator.acceptInteger⟩, none, []⟩

/-- The graph of `renewal`. -/
def renewalGraph : Graph where
  flow := renewal
  areas := [
    { id := .root
      entry := "renew"
      steps := [
        renew,
        ⟨.subgraphRef "call" "plan", none, none, some ⟨"plan"⟩, []⟩,
        ⟨.terminal "end", none, none, none, []⟩]
      links :=
        [⟨0, "renew", .node "call", .always, false⟩, ⟨1, "call", .node "end", .always, false⟩]
      invalidTargets := [] },
    { id := ⟨"plan"⟩
      entry := "seats"
      steps := [seats]
      links := [⟨0, "seats", .exit, .always, false⟩]
      invalidTargets := [] }]
  warnings := []
  predicates := .builtin

theorem compile_renewal : Host.builtin.compile renewal = .ok renewalGraph :=
  Host.compile_of_passes rfl rfl (by decide) (by with_unfolding_all rfl) rfl rfl rfl

/-- The answer to the first question. -/
def choice : Proposal := ⟨"choice", .bool true, .ofNat 1⟩

/-- A turn with this answer. -/
def choiceTurn : TurnInput := { proposals := [choice] }

/-- A conversation at the first question. -/
def renewalStart : Conversation := (Engine.ofSettings {}).run renewalGraph [] []

/-- The conversation with the answer. -/
def renewed : Conversation :=
  { Engine.opened renewalGraph "renew" [] with turn := 1, answers :=
    [("choice", ⟨.bool true, 1, .ofNat 1⟩)] }

theorem choice_accepts :
    ((Engine.ofSettings {}).begun renewalStart choiceTurn).Accepts (Engine.ofSettings {}).traversal
      renewalGraph choice
      ⟨.bool true, 1, .ofNat 1⟩ :=
  ⟨by decide +kernel, _, renew, _, Conversation.owner?_of_scope rfl rfl, rfl, rfl⟩

theorem choiceTurn_departs :
    (Engine.ofSettings {}).Departs renewalGraph renewalStart (.turn choiceTurn) renewed false
    ((Engine.ofSettings {}).reviewed renewalGraph renewalStart choiceTurn) := by
  have hanswered : (Engine.ofSettings {}).answered renewalGraph renewalStart choiceTurn = renewed :=
    Engine.answered_of_accepts rfl choice_accepts
  rw [← hanswered]
  exact .turn rfl rfl (Engine.held_of_accepts rfl choice_accepts)

/-- The walk after this turn, from so many steps on. -/
theorem choiceTurn_visits {n : ℕ} {w : Walker}
    (h : Walker.after? renewalGraph n ⟨renewed, {}, false⟩ = some w)
    (hn : n < (Engine.ofSettings {}).traversal.maxAutoSteps) :
    (Engine.ofSettings {}).Visits renewalGraph [] [.turn choiceTurn] w :=
  .walks choiceTurn_departs (mem_moments_of_after? h hn)

/-- The first question is left, as its own validator has made its answer. -/
theorem renew_answered :
    Host.builtin.compile renewal = .ok renewalGraph ∧
    ∃ w area a, (Engine.ofSettings {}).Visits renewalGraph [] [.turn choiceTurn] w ∧
      w.PassesAnswered renewalGraph area renew "choice" a ∧
      Validator.acceptBoolean (.bool true) = .ok a.value := by
  have hvisits := choiceTurn_visits (n := 0) rfl (by decide)
  have hpasses : Walker.PassesAnswered renewalGraph ⟨renewed, {}, false⟩ _ renew "choice" _ :=
    ⟨rfl, rfl, rfl, rfl, rfl, rfl⟩
  obtain ⟨-, q, hq, -, howner, -⟩ :=
    Engine.answered_by_owner compile_renewal _ _ _ hvisits hpasses rfl
  refine ⟨compile_renewal, _, _, _, hvisits, hpasses, ?_⟩
  -- there was one proposal, and it came at the root
  obtain rfl : q = ((Engine.ofSettings {}).begun renewalStart choiceTurn, choice) :=
    List.mem_singleton.1 hq
  rcases howner with ⟨-, hown⟩ | ⟨_, _, -, -, -, -, hscope⟩
  · exact hown
  · exact absurd rfl hscope

/-- The second question is left as well, with an answer that its own validator makes of no value. -/
theorem seats_unguarded :
    Host.builtin.compile renewal = .ok renewalGraph ∧
    ∃ w area a v, (Engine.ofSettings {}).Visits renewalGraph [] [.turn choiceTurn] w ∧
      w.PassesAnswered renewalGraph area seats "choice" a ∧
      (∃ w', w.step renewalGraph = .moved w') ∧
      seats.validator = some v ∧ ∀ value, v.accept value ≠ .ok a.value :=
  ⟨compile_renewal, _, _, _, _, choiceTurn_visits (n := 2) rfl (by decide),
    ⟨rfl, rfl, rfl, rfl, rfl, rfl⟩, ⟨_, rfl⟩, rfl, fun value =>
      Validator.acceptInteger_ne_bool value true⟩

end Samples

end Parley

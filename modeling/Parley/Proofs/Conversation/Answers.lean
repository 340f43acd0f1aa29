import Parley.Proofs.Conversation.Placement

/-!
# Which answers are stored

The answers of a conversation are the proposals that were accepted, the last one for each key.

* `Conversation.Accepts`: when a proposal is stored, and as what;
* `Engine.proposed`: the proposals that a run reviews;
* `Review.Reports`: each proposal is reported once;
* `Engine.run_answers`.
-/

namespace Parley

universe u

/-! ### The last entry for a key -/

section Last

variable {α : Type u} {P : α → Prop} {x y : α} {xs : List α}

/-- An item has a property, and none after it has. -/
def IsLast (P : α → Prop) (xs : List α) (x : α) : Prop :=
  ∃ before after, xs = before ++ x :: after ∧ P x ∧ ∀ y ∈ after, ¬ P y

theorem IsLast.holds (h : IsLast P xs x) : P x := by
  obtain ⟨-, -, -, hx, -⟩ := h
  exact hx

theorem isLast_nil : ¬ IsLast P [] x := by
  rintro ⟨before, after, h, -⟩
  simp at h

theorem isLast_cons : IsLast P (x :: xs) y ↔ IsLast P xs y ∨ (x = y ∧ P y ∧ ∀ z ∈ xs, ¬ P z) := by
  constructor
  · rintro ⟨before, after, h, hy, hafter⟩
    cases before with
    | nil =>
      cases h
      exact .inr ⟨rfl, hy, hafter⟩
    | cons z before =>
      cases h
      exact .inl ⟨before, after, rfl, hy, hafter⟩
  · rintro (⟨before, after, rfl, hy, hafter⟩ | ⟨rfl, hx, hxs⟩)
    · exact ⟨x :: before, after, rfl, hy, hafter⟩
    · exact ⟨[], xs, rfl, hx, hxs⟩

variable {entryFor? : α → Option (AnswerKey × Answer)} {answers : Dict Answer} {key : AnswerKey}
    {a : Answer}

/-- Of entries that are added one after the other, the last one for a key is found, or else what was
there before. -/
theorem get?_addAll (xs : List α) :
    (Conversation.addAll answers (xs.filterMap entryFor?)).get? key = some a ↔
      (∃ x, IsLast (fun x => ∃ b, entryFor? x = some (key, b)) xs x ∧ entryFor? x = some (key, a)) ∨
      (answers.get? key = some a ∧ ∀ x ∈ xs, ¬ ∃ b, entryFor? x = some (key, b)) := by
  induction xs generalizing answers with
  | nil => simp [Conversation.addAll, isLast_nil]
  | cons x xs ih =>
    cases hx : entryFor? x with
    | none =>
      rw [List.filterMap_cons_none hx, ih]
      simp [isLast_cons, hx, or_and_right, exists_or]
    | some e =>
      -- the first entry is the last one for its key unless a later one hides it
      obtain ⟨k, b⟩ := e
      rw [List.filterMap_cons_some hx, Conversation.addAll, List.foldl_cons,
        ← Conversation.addAll, ih, Dict.get?_insert]
      constructor
      · rintro (⟨y, hy, ha⟩ | ⟨hget, hnone⟩)
        · exact .inl ⟨y, isLast_cons.2 (.inl hy), ha⟩
        · -- no later entry for the key: it is this one, or the one from before
          split_ifs at hget with hk
          · subst hk
            cases hget
            exact .inl ⟨x, isLast_cons.2 (.inr ⟨rfl, ⟨b, hx⟩, hnone⟩), hx⟩
          · refine .inr ⟨hget, fun y hy => ?_⟩
            rcases List.mem_cons.1 hy with rfl | hy
            · simp [hx, hk]
            · exact hnone y hy
      · rintro (⟨y, hy, ha⟩ | ⟨hget, hnone⟩)
        · rcases isLast_cons.1 hy with hy | ⟨rfl, -, hnone⟩
          · exact .inl ⟨y, hy, ha⟩
          · rw [hx] at ha
            cases ha
            exact .inr ⟨if_pos rfl, hnone⟩
        · have hk : k ≠ key := by
            rintro rfl
            exact hnone x List.mem_cons_self ⟨b, hx⟩
          exact .inr ⟨by rwa [if_neg hk], fun y hy => hnone y (List.mem_cons_of_mem _ hy)⟩

end Last

/-! ### What a run stores -/

namespace Conversation

/-- A proposal is stored as an answer: its confidence is high enough, and the node that owns its key
accepts its value. -/
def Accepts (settings : TraversalSettings) (g : Graph) (c : Conversation) (p : Proposal)
    (a : Answer) : Prop :=
  p.confidence.lt settings.minConfidence = false ∧
    ∃ area owner value, c.owner? g p.key = some (area, owner) ∧ owner.accept p.value = .ok value ∧
      a = ⟨value, c.turn, p.confidence⟩

variable {settings : TraversalSettings} {g : Graph} {c : Conversation} {p : Proposal}

theorem entryFor?_eq_some {key : AnswerKey} {a : Answer} :
    c.entryFor? settings g p = some (key, a) ↔ p.key = key ∧ c.Accepts settings g p a := by
  simp only [entryFor?, Option.map_eq_some_iff, Verdict.value?_eq_some, verdict_eq_committed,
    Prod.mk.injEq]
  constructor
  · rintro ⟨value, ⟨hconfident, area, owner, howner, haccept⟩, hkey, rfl⟩
    exact ⟨hkey, hconfident, area, owner, value, howner, haccept, rfl⟩
  · rintro ⟨hkey, hconfident, area, owner, value, howner, haccept, rfl⟩
    exact ⟨value, ⟨hconfident, area, owner, howner, haccept⟩, hkey, rfl⟩

end Conversation

namespace Engine

variable {e : Engine} {g : Graph} {c : Conversation}

/-- The proposals that a call reviews, each with the conversation in which it is reviewed. -/
def proposedBy (e : Engine) (c : Conversation) : Call → List (Conversation × Proposal)
  | .turn input =>
      if c.status = .awaitingInput then input.proposals.map fun p => (e.begun c input, p) else []
  | .resume _ => []
  | .overridePath _ => []

/-- The proposals that calls review one after the other. -/
def proposed (e : Engine) (g : Graph) : Conversation → List Call → List (Conversation × Proposal)
  | _, [] => []
  | c, k :: r => e.proposedBy c k ++ e.proposed g (e.call g c k).conversation r

theorem proposed_concat (e : Engine) (g : Graph) (c : Conversation) (calls : List Call) (k : Call) :
    e.proposed g c (calls ++ [k]) = e.proposed g c calls ++ e.proposedBy (e.after g c calls) k := by
  induction calls generalizing c with
  | nil => simp [proposed, after]
  | cons call calls ih =>
    rw [List.cons_append, proposed, ih, proposed, List.append_assoc, after, after, List.foldl_cons]

/-- What the proposals of a run add to the answers. -/
def storedBy (e : Engine) (g : Graph) (q : Conversation × Proposal) : Option (AnswerKey × Answer) :=
  q.1.entryFor? e.traversal g q.2

theorem filterMap_proposedBy {input : TurnInput} (hs : c.status = .awaitingInput) :
    (e.proposedBy c (.turn input)).filterMap (e.storedBy g) =
      (e.begun c input).accepted e.traversal g input.proposals := by
  rw [proposedBy, if_pos hs, List.filterMap_map]
  rfl

theorem Departs.answers {k : Call} {c₁ : Conversation} {passing : Bool} {review : Review}
    (h : e.Departs g c k c₁ passing review) :
    c₁.answers = Conversation.addAll c.answers ((e.proposedBy c k).filterMap (e.storedBy g)) := by
  cases h with
  | turn hs => rw [filterMap_proposedBy hs, answered]
  | resumeAt | resume | overridePath => rfl

theorem Stays.answers {k : Call} {r : Reply} (h : e.Stays g c k r) :
    r.conversation.answers =
      Conversation.addAll c.answers ((e.proposedBy c k).filterMap (e.storedBy g)) := by
  cases h with
  | idle hs => simp [proposedBy, hs, Conversation.addAll]
  | suspended hs | held hs => simp only [filterMap_proposedBy hs, answered]
  | notEscalated | missingScope | notInScope | notOffered | overridden => rfl

/-- A call adds the accepted proposals to the answers. -/
theorem call_answers (hc : c.PinnedTo g) (k : Call) :
    (e.call g c k).conversation.answers =
      Conversation.addAll c.answers ((e.proposedBy c k).filterMap (e.storedBy g)) := by
  rcases call_cases hc k with ⟨c₁, passing, review, decision, hd, hr⟩ | hstays
  · rw [hr, advance_conversation, (walk_follows g _ _).answers_eq, hd.answers]
  · exact hstays.answers

theorem after_answers (hc : c.PinnedTo g) (calls : List Call) :
    (e.after g c calls).answers =
      Conversation.addAll c.answers ((e.proposed g c calls).filterMap (e.storedBy g)) := by
  induction calls generalizing c with
  | nil => rfl
  | cons k calls ih =>
    rw [after, List.foldl_cons, ← after, ih (call_pinnedTo hc k), call_answers hc, proposed,
      List.filterMap_append, Conversation.addAll_append]

section Single

variable {input : TurnInput} {p : Proposal} {a : Answer} (hinput : input.proposals = [p])
  (h : (e.begun c input).Accepts e.traversal g p a)

include hinput h

/-- A turn with one proposal, which is accepted, stores the answer. -/
theorem answered_of_accepts :
    e.answered g c input = { e.begun c input with answers := c.answers.insert p.key a } := by
  rw [answered, hinput, Conversation.accepted,
    List.filterMap_cons_some (Conversation.entryFor?_eq_some.2 ⟨rfl, h⟩), List.filterMap_nil]
  rfl

/-- Such a turn is not held. -/
theorem held_of_accepts : (e.reviewed g c input).held = false := by
  obtain ⟨hconfident, area, owner, value, howner, haccept, -⟩ := h
  have hverdict := Conversation.verdict_eq_committed.2 ⟨hconfident, area, owner, howner, haccept⟩
  rw [reviewed, Conversation.reviewFrom_held, hinput, List.any_cons, hverdict]
  rfl

end Single

end Engine

/-! ### What a turn reports -/

/-- Each proposal is reported once, by what became of it, and in order. -/
structure Review.Reports (r : Review) (verdict : Proposal → Verdict) (ps : List Proposal) :
    Prop where
  committed : r.committed = ps.filterMap fun p => (verdict p).value?.map fun _ => p.key
  rejected : r.rejected = ps.filterMap fun p => (verdict p).rejection? p.key
  ignored : r.ignored = ps.filterMap fun p => (verdict p).ignored? p.key
  total : r.committed.length + r.rejected.length + r.ignored.length = ps.length

theorem length_filterMap_cons {α β : Type} (f : α → Option β) (x : α) (xs : List α) :
    ((x :: xs).filterMap f).length = (f x).toList.length + (xs.filterMap f).length := by
  rw [List.filterMap_cons]
  cases f x with
  | none => simp
  | some y => simp [Nat.add_comm]

/-- A verdict is one of three. -/
theorem Verdict.length_toList (key : AnswerKey) (v : Verdict) :
    (v.value?.map fun _ => key).toList.length + (v.rejection? key).toList.length +
      (v.ignored? key).toList.length = 1 := by
  cases v <;> rfl

theorem Verdict.length_filterMap (verdict : Proposal → Verdict) (ps : List Proposal) :
    (ps.filterMap fun p => (verdict p).value?.map fun _ => p.key).length +
        (ps.filterMap fun p => (verdict p).rejection? p.key).length +
        (ps.filterMap fun p => (verdict p).ignored? p.key).length = ps.length := by
  induction ps with
  | nil => rfl
  | cons p ps ih =>
    have hone := (verdict p).length_toList p.key
    rw [length_filterMap_cons, length_filterMap_cons, length_filterMap_cons, List.length_cons]
    omega

namespace Engine

variable {e : Engine} {g : Graph} {c : Conversation}

theorem reviewed_reports (e : Engine) (g : Graph) (c : Conversation) (input : TurnInput) :
    (e.reviewed g c input).Reports ((e.begun c input).verdict e.traversal g) input.proposals := by
  have hcommitted := (e.begun c input).reviewFrom_committed e.traversal g {} input.proposals
  have hrejected := (e.begun c input).reviewFrom_rejected e.traversal g {} input.proposals
  have hignored := (e.begun c input).reviewFrom_ignored e.traversal g {} input.proposals
  refine ⟨hcommitted, hrejected, hignored, ?_⟩
  rw [reviewed, hcommitted, hrejected, hignored]
  exact Verdict.length_filterMap _ _

/-- A turn that is processed has an outcome, which is counted and holds its review. -/
theorem turn_outcome (hg : g.IsClosed) (hc : c.IsPlaced g) (hs : c.status = .awaitingInput)
    (input : TurnInput) :
    ∃ o, (e.turn g c input).result = .ok o ∧ o.turn = c.turn + 1 ∧
      o.review = e.reviewed g c input := by
  rcases turn_cases (e := e) hc.toPinnedTo input with
    ⟨c₁, passing, review, decision, hd, hr⟩ | hstays
  · have hfault := (walk_liesIn hg (w := ⟨c₁, {}, passing⟩) (hd.isPlaced hc).position
      e.traversal.maxAutoSteps).1
    rw [hr, advance_result hfault]
    cases hd
    exact ⟨_, rfl, (walk_follows g _ _).turn_eq, rfl⟩
  · generalize e.turn g c input = r at hstays ⊢
    cases hstays with
    | idle hidle => exact absurd hs hidle
    | suspended => exact ⟨_, rfl, rfl, rfl⟩
    | held => exact ⟨_, rfl, rfl, rfl⟩

/-- **Only accepted answers are stored, and none is lost.**  After a run the answer for a key is the
last proposal for it that was accepted; and a turn reports each of its proposals once. -/
theorem run_answers (e : Engine) (hg : g.IsCompiled) (context : Dict Json) (calls : List Call) :
    (∀ key a, (e.run g context calls).answers.get? key = some a ↔
      ∃ q, IsLast (fun q : Conversation × Proposal => q.2.key = key ∧ ∃ b,
        q.1.Accepts e.traversal g q.2 b)
          (e.proposed g (e.start g context).conversation calls) q ∧
        q.1.Accepts e.traversal g q.2 a) ∧
    ∀ input, (e.run g context calls).status = .awaitingInput →
      ∃ o, (e.turn g (e.run g context calls) input).result = .ok o ∧
        o.turn = (e.run g context calls).turn + 1 ∧
        o.review.Reports ((e.begun (e.run g context calls) input).verdict e.traversal g)
          input.proposals := by
  refine ⟨fun key a => ?_, fun input hs => ?_⟩
  · have hstart : (e.start g context).conversation.answers = [] := (walk_follows g _ _).answers_eq
    have hstored : ∀ q b, e.storedBy g q = some (key, b) ↔
        q.2.key = key ∧ q.1.Accepts e.traversal g q.2 b :=
      fun q b => Conversation.entryFor?_eq_some
    rw [run, after_answers (start_pinnedTo e g context), hstart, get?_addAll]
    simp only [hstored, Dict.get?_nil, reduceCtorEq, false_and, or_false, exists_and_left]
    constructor
    · rintro ⟨q, hlast, -, ha⟩
      exact ⟨q, hlast, ha⟩
    · rintro ⟨q, hlast, ha⟩
      exact ⟨q, hlast, hlast.holds.1, ha⟩
  · have hversions : ∀ g' ∈ ({g} : Set Graph), g'.IsCompiled := by
      rintro g' rfl
      exact hg
    have hplaced := (reaches_run (e := e) (Set.mem_singleton g) context calls).isPlaced hversions
    obtain ⟨o, ho, hturn, hreview⟩ := turn_outcome hg.isClosed hplaced hs input
    exact ⟨o, ho, hturn, hreview ▸ reviewed_reports e g _ input⟩

end Engine

/-! ### A first answer -/

namespace Samples

/-- A conversation about the detour that was just opened. -/
def detourStart : Conversation := ((Engine.ofSettings {}).start (detourGraph 1) []).conversation

/-- The answer to the question of the detour. -/
def ready : Proposal := ⟨"ready", .bool true, .ofNat 1⟩

/-- A turn with this answer. -/
def readyTurn : TurnInput := { proposals := [ready] }

theorem ready_accepts :
    ((Engine.ofSettings {}).begun detourStart readyTurn).Accepts (Engine.ofSettings {}).traversal
      (detourGraph 1)
      ready ⟨.bool true, 1, .ofNat 1⟩ :=
  ⟨by decide +kernel, _, _, _, Conversation.owner?_of_scope rfl rfl, rfl, rfl⟩

/-- The answer to the first question of a flow is stored as it is. -/
theorem detour_answers :
    (detourGraph 1).IsCompiled ∧
      ((Engine.ofSettings {}).run (detourGraph 1) [] [.turn readyTurn]).answers.get? "ready" =
        some ⟨.bool true, 1, .ofNat 1⟩ := by
  have hg := detourGraph_isCompiled 1
  have hlast := Engine.run_answers (.ofSettings {}) hg [] [.turn readyTurn]
  exact ⟨hg, (hlast.1 "ready" _).2
    ⟨_, ⟨[], [], rfl, ⟨rfl, _, ready_accepts⟩, by simp⟩, ready_accepts⟩⟩

end Samples

end Parley

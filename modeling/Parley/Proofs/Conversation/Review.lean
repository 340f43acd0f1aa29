import Mathlib.Tactic
import Parley.Conversation.Review

/-!
# What becomes of proposals

Each proposal of a turn has one verdict, which the answers stored so far do not change.  The review
of a turn sorts its proposals by their verdicts and keeps their order.

* `Verdict`, `Conversation.verdict`;
* `Conversation.accepted`: the entries that a turn stores;
* `Conversation.commitAll_eq`: the review of a turn, part by part.
-/

namespace Parley

/-- What becomes of a proposal. -/
inductive Verdict
  | ignored (reason : IgnoreReason)
  | committed (value : Json)
  | rejected (area : Area) (owner : Step) (reason : String)

namespace Verdict

/-- The value that is stored. -/
def value? : Verdict → Option Json
  | .committed value => some value
  | _ => none

theorem value?_eq_some {v : Verdict} {value : Json} :
    v.value? = some value ↔ v = .committed value := by
  cases v <;> simp [value?]

/-- What is told of a proposal that was refused. -/
def rejection? (key : AnswerKey) : Verdict → Option Rejection
  | .rejected _ owner reason => some ⟨key, owner.id, reason⟩
  | _ => none

def ignored? (key : AnswerKey) : Verdict → Option IgnoredProposal
  | .ignored reason => some ⟨key, reason⟩
  | _ => none

def clarification? (settings : TraversalSettings) : Verdict → Option String
  | .rejected area owner _ => some ((area.clarification? owner).getD settings.retryPrompt)
  | _ => none

/-- Whether an answer of the current node was refused. -/
def holds (c : Conversation) : Verdict → Bool
  | .rejected area owner _ => c.standsAt area owner
  | _ => false

end Verdict

/-- The entry that a proposal puts into a review. -/
def Review.add (settings : TraversalSettings) (c : Conversation) (r : Review) (p : Proposal)
    (v : Verdict) : Review where
  clarification := r.clarification.or (v.clarification? settings)
  committed := r.committed ++ (v.value?.map fun _ => p.key).toList
  rejected := r.rejected ++ (v.rejection? p.key).toList
  ignored := r.ignored ++ (v.ignored? p.key).toList
  held := r.held || v.holds c

namespace Conversation

/-- What becomes of a proposal: it is ignored when its confidence is too low or no node owns its
key; else the validator of the node that owns the key decides. -/
def verdict (settings : TraversalSettings) (g : Graph) (c : Conversation) (p : Proposal) :
    Verdict :=
  if p.confidence.lt settings.minConfidence then .ignored .lowConfidence
  else
    match c.owner? g p.key with
    | none => .ignored .unknownKey
    | some (area, owner) =>
        match owner.accept p.value with
        | .ok value => .committed value
        | .error reason => .rejected area owner reason

/-- The entry that a proposal adds to the answers. -/
def entryFor? (settings : TraversalSettings) (g : Graph) (c : Conversation) (p : Proposal) :
    Option (AnswerKey × Answer) :=
  (c.verdict settings g p).value?.map fun value => (p.key, ⟨value, c.turn, p.confidence⟩)

/-- The entries that a list of proposals adds to the answers, in order. -/
def accepted (settings : TraversalSettings) (g : Graph) (c : Conversation) (ps : List Proposal) :
    List (AnswerKey × Answer) :=
  ps.filterMap (c.entryFor? settings g)

/-- The answers with entries added one after the other. -/
def addAll (answers : Dict Answer) (entries : List (AnswerKey × Answer)) : Dict Answer :=
  entries.foldl (fun d e => d.insert e.1 e.2) answers

variable {settings : TraversalSettings} {g : Graph} {c : Conversation} {p : Proposal}

/-- A node of the current scope owns its key before all others. -/
theorem owner?_of_scope {key : AnswerKey} {area : Area} {owner : Step}
    (harea : g.area? c.scope = some area) (howner : area.ownerOf? key = some owner) :
    c.owner? g key = some (area, owner) := by
  unfold owner? searchOrder
  rw [List.cons_append, List.cons_append, List.cons_append, List.eraseDups_cons,
    List.findSome?_cons, harea, Option.bind_some, howner, Option.map_some]

theorem verdict_eq_committed {value : Json} :
    c.verdict settings g p = .committed value ↔
      p.confidence.lt settings.minConfidence = false ∧
        ∃ area owner, c.owner? g p.key = some (area, owner) ∧ owner.accept p.value = .ok value := by
  unfold verdict
  split_ifs with hlow
  · simp [hlow]
  · cases howner : c.owner? g p.key with
    | none => simp
    | some o =>
      obtain ⟨area, owner⟩ := o
      cases haccept : owner.accept p.value with
      | ok value' => simp [hlow, haccept]
      | error reason => simp [haccept]

theorem commit_eq (r : Review) :
    c.commit settings g r p =
      ({ c with answers := addAll c.answers (c.entryFor? settings g p).toList },
        r.add settings c p (c.verdict settings g p)) := by
  unfold commit entryFor? verdict
  split_ifs
  · simp [Review.add, Review.ignore, Verdict.value?, Verdict.rejection?, Verdict.ignored?,
      Verdict.clarification?, Verdict.holds, addAll]
  · cases c.owner? g p.key with
    | none =>
      simp [Review.add, Review.ignore, Verdict.value?, Verdict.rejection?, Verdict.ignored?,
        Verdict.clarification?, Verdict.holds, addAll]
    | some o =>
      obtain ⟨area, owner⟩ := o
      cases ha : owner.accept p.value with
      | ok value =>
        simp [ha, Review.add, Conversation.store, Verdict.value?, Verdict.rejection?,
          Verdict.ignored?, Verdict.clarification?, Verdict.holds, addAll]
      | error reason =>
        simp [ha, Review.add, Review.reject, Verdict.value?, Verdict.rejection?, Verdict.ignored?,
          Verdict.clarification?, Verdict.holds, addAll]

/-- The review of a list of proposals after a review. -/
def reviewFrom (settings : TraversalSettings) (g : Graph) (c : Conversation) (r : Review)
    (ps : List Proposal) : Review :=
  ps.foldl (fun r p => r.add settings c p (c.verdict settings g p)) r

theorem addAll_append (answers : Dict Answer) (es es' : List (AnswerKey × Answer)) :
    addAll answers (es ++ es') = addAll (addAll answers es) es' := by
  simp [addAll, List.foldl_append]

theorem foldl_commit_eq (r : Review) (ps : List Proposal) :
    ps.foldl (fun (c, r) p => c.commit settings g r p) (c, r) =
      ({ c with answers := addAll c.answers (c.accepted settings g ps) },
        c.reviewFrom settings g r ps) := by
  induction ps generalizing c r with
  | nil => rfl
  | cons p ps ih =>
    have hentries : c.accepted settings g (p :: ps) =
        (c.entryFor? settings g p).toList ++ c.accepted settings g ps := by
      simp only [accepted, List.filterMap_cons]
      cases c.entryFor? settings g p <;> rfl
    have hstep : c.commit settings g r p = _ := commit_eq r
    simp only [List.foldl_cons, hstep]
    rw [ih, hentries, addAll_append]
    rfl

/-- A turn stores the accepted entries in order and changes nothing else. -/
theorem commitAll_eq (settings : TraversalSettings) (g : Graph) (c : Conversation)
    (ps : List Proposal) :
    c.commitAll settings g ps =
      ({ c with answers := addAll c.answers (c.accepted settings g ps) },
        c.reviewFrom settings g {} ps) :=
  foldl_commit_eq {} ps

/-! ### The parts of a review -/

section Parts

variable (settings g c) (r : Review) (ps : List Proposal)

/-- A part to which each proposal adds at most one entry lists these entries in order. -/
theorem reviewFrom_part {α : Type} (part : Review → List α) (entryFor? : Proposal → Option α)
    (hadd : ∀ r p, part (r.add settings c p (c.verdict settings g p)) = part r ++
      (entryFor? p).toList) :
    part (c.reviewFrom settings g r ps) = part r ++ ps.filterMap entryFor? := by
  induction ps generalizing r with
  | nil => simp [reviewFrom]
  | cons p ps ih =>
    rw [reviewFrom, List.foldl_cons, ← reviewFrom, ih, hadd, List.filterMap_cons, List.append_assoc]
    cases entryFor? p <;> rfl

theorem reviewFrom_committed :
    (c.reviewFrom settings g r ps).committed =
      r.committed ++ ps.filterMap fun p => (c.verdict settings g p).value?.map fun _ => p.key :=
  reviewFrom_part settings g c r ps Review.committed _ fun _ _ => rfl

theorem reviewFrom_rejected :
    (c.reviewFrom settings g r ps).rejected =
      r.rejected ++ ps.filterMap fun p => (c.verdict settings g p).rejection? p.key :=
  reviewFrom_part settings g c r ps Review.rejected _ fun _ _ => rfl

theorem reviewFrom_ignored :
    (c.reviewFrom settings g r ps).ignored =
      r.ignored ++ ps.filterMap fun p => (c.verdict settings g p).ignored? p.key :=
  reviewFrom_part settings g c r ps Review.ignored _ fun _ _ => rfl

theorem reviewFrom_held :
    (c.reviewFrom settings g r ps).held =
      (r.held || ps.any fun p => (c.verdict settings g p).holds c) := by
  induction ps generalizing r with
  | nil => simp [reviewFrom]
  | cons p ps ih =>
    rw [reviewFrom, List.foldl_cons, ← reviewFrom, ih, List.any_cons, ← Bool.or_assoc]
    rfl

end Parts

end Conversation

end Parley

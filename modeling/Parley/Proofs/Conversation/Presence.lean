import Parley.Proofs.Conversation.Ownership
import Parley.Proofs.Conversation.Passages

/-!
# Answered and present

A walk leaves a question when there is an answer for its key, whatever the answer is; a guard takes
a stored `null` for a missing answer.  The two agree unless `null` is stored, which takes a proposal
of which the node that owned the key made `null`.  Then the question counts as answered, while its
key is not present.

* `Guard.Expr.eval_present`: when a key is present;
* `Walker.AtQuestion`: a walk is at a question that may be run;
* `Walker.AtQuestion.moves_iff`: the walk leaves it when there is an answer;
* `Engine.moves_iff_present`.
-/

namespace Parley

variable {g : Graph} {key : AnswerKey}

theorem Json.isNull_eq_false_iff {value : Json} : value.isNull = false ↔ value ≠ .null := by
  cases value <;> simp [Json.isNull]

/-- The guard for the presence of a key is always evaluated: it holds if there is an answer other
than `null`. -/
theorem Guard.Expr.eval_present {registry : Registry} {env : Environment} :
    (present (.answer key)).eval registry env =
      .ok ((env.answer key).any fun value => !value.isNull) := by
  rw [eval, Environment.resolve]
  cases hanswer : env.answer key with
  | none => rfl
  | some value => cases hnull : value.isNull <;> simp [Option.filter, hnull]

/-! ### At a question -/

/-- A walk is at an eligible question with a key, which has not been run yet. -/
structure Walker.AtQuestion (g : Graph) (w : Walker) (area : Area) (s : Step) (key : AnswerKey) :
    Prop where
  look : Walker.look g w.conversation = .ok (area, s)
  passing : w.passing = false
  eligible : s.isEligible g.predicates w.conversation.environment = true
  kind : s.node.kind = .question
  owns : s.node.key = some key

namespace Walker.AtQuestion

variable {w : Walker} {area : Area} {s : Step}

/-- Without an answer the walk waits for one. -/
theorem rests (h : w.AtQuestion g area s key) (hnone : w.conversation.answers.get? key = none) :
    w.Rests g .awaitingInput := by
  refine .wait h.look ?_
  rw [Walker.decide_eq, h.passing, h.eligible]
  simp [run, h.kind, h.owns, Dict.contains, hnone]

/-- With an answer, whatever it is, the walk goes on. -/
theorem moves (hg : g.IsCompiled) (hw : w.conversation.position.LiesIn g)
    (h : w.AtQuestion g area s key) {a : Answer} (ha : w.conversation.answers.get? key = some a) :
    ∃ v, w.step g = .moved v := by
  have hanswered : w.PassesAnswered g area s key a :=
    ⟨h.look, h.passing, h.eligible, h.kind, h.owns, ha⟩
  rcases step_cases hg.isClosed hw with ⟨status, hrests⟩ | ⟨v, hstep, -⟩
  · exact absurd hrests (not_rests hg h.look (by rw [h.kind]; rfl) hanswered.decide_eq)
  · exact ⟨v, hstep⟩

/-- **A question is left when there is an answer for its key.** -/
theorem moves_iff (hg : g.IsCompiled) (hw : w.conversation.position.LiesIn g)
    (h : w.AtQuestion g area s key) :
    (∃ v, w.step g = .moved v) ↔ ∃ value, w.conversation.value? key = some value := by
  unfold Conversation.value?
  cases hanswer : w.conversation.answers.get? key with
  | none =>
    obtain ⟨u, hstep, -⟩ := (h.rests hanswer).step_eq
    simp [hstep]
  | some a => simp [h.moves hg hw hanswer]

end Walker.AtQuestion

/-! ### The steps of a run -/

theorem moments_liesIn (hg : g.IsClosed) {n : ℕ} {w : Walker}
    (hw : w.conversation.position.LiesIn g) :
    ∀ v ∈ moments g n w, v.conversation.position.LiesIn g :=
  moments_keep (P := fun v => v.conversation.position.LiesIn g)
    (fun _ hv => (Walker.step_liesIn hg hv).walker) hw

namespace Engine

variable {e : Engine} {context : Dict Json} {calls : List Call} {w : Walker}

/-- The steps of a run are at nodes of the graph. -/
theorem Visits.liesIn (hg : g.IsCompiled) (h : e.Visits g context calls w) :
    w.conversation.position.LiesIn g := by
  cases h with
  | start hw => exact moments_liesIn hg.isClosed (opened_isPlaced hg.isClosed context).position w hw
  | walks hd hw =>
    have hplaced := hd.isPlaced ((graphReaches_run e g context _).isPlaced hg)
    exact moments_liesIn hg.isClosed hplaced.position w hw

/-- A stored value was made of a proposal by the node that owned its key. -/
theorem Visits.exists_accept (h : e.Visits g context calls w) {value : Json}
    (hvalue : w.conversation.value? key = some value) :
    ∃ q ∈ e.proposed g (e.start g context).conversation calls, q.2.key = key ∧
      ∃ area owner, q.1.owner? g key = some (area, owner) ∧ owner.accept q.2.value = .ok value := by
  obtain ⟨a, ha, rfl⟩ := Option.map_eq_some_iff.1 hvalue
  obtain ⟨q, hq, hkey, -, area, owner, value, howner, haccept, rfl⟩ := h.exists_accepts ha
  exact ⟨q, hq, hkey, area, owner, hkey ▸ howner, haccept⟩

/-- **A question is left as answered exactly when its key is present, unless `null` is stored for
it.**  Then it is left although its key is not present; and some node has made that `null` of a
proposal.  A question that is not left waits for an answer. -/
theorem moves_iff_present (hg : g.IsCompiled) (hw : e.Visits g context calls w)
    {area : Area} {s : Step} (h : w.AtQuestion g area s key) :
    let moves := ∃ v, w.step g = .moved v
    let isPresent := (Guard.Expr.present (.answer key)).eval g.predicates w.conversation.environment
    ((moves ↔ isPresent = .ok true) ↔ w.conversation.value? key ≠ some .null) ∧
      (w.conversation.value? key = some .null → moves ∧ isPresent = .ok false ∧
        ∃ q ∈ e.proposed g (e.start g context).conversation calls, q.2.key = key ∧
          ∃ other owner, q.1.owner? g key = some (other, owner) ∧
            owner.accept q.2.value = .ok .null) ∧
      (¬ moves → w.Rests g .awaitingInput) := by
  intro moves isPresent
  have hmoves : moves ↔ ∃ value, w.conversation.value? key = some value :=
    h.moves_iff hg (hw.liesIn hg)
  have hpresent : isPresent = .ok ((w.conversation.value? key).any fun value => !value.isNull) :=
    Guard.Expr.eval_present
  rw [hmoves, hpresent]
  refine ⟨?_, fun hnull => ⟨⟨_, hnull⟩, by rw [hnull]; rfl, hw.exists_accept hnull⟩,
    fun hnone => h.rests ?_⟩
  · cases hvalue : w.conversation.value? key with
    | none => simp
    | some value => simp [Json.isNull_eq_false_iff]
  · cases hanswer : w.conversation.answers.get? key with
    | none => rfl
    | some a => exact absurd ⟨a.value, by rw [Conversation.value?, hanswer]; rfl⟩ hnone

end Engine

namespace Samples

/-- The first question of `renewal` is left with its answer, and its key is present. -/
theorem renew_present :
    renewalGraph.IsCompiled ∧
      ∃ w area, (Engine.ofSettings {}).Visits renewalGraph [] [.turn choiceTurn] w ∧
        w.AtQuestion renewalGraph area renew "choice" ∧ (∃ v, w.step renewalGraph = .moved v) ∧
        (Guard.Expr.present (.answer "choice")).eval renewalGraph.predicates
          w.conversation.environment = .ok true := by
  have hg : renewalGraph.IsCompiled := ⟨_, _, compile_renewal⟩
  have hvisits := choiceTurn_visits (n := 0) rfl (by decide)
  have hat : Walker.AtQuestion renewalGraph ⟨renewed, {}, false⟩ _ renew "choice" :=
    ⟨rfl, rfl, rfl, rfl, rfl⟩
  have hpresent : (Guard.Expr.present (.answer "choice")).eval renewalGraph.predicates
      renewed.environment = .ok true :=
    rfl
  have hagree := (Engine.moves_iff_present hg hvisits hat).1.2
      (by simp [renewed, Conversation.value?, Dict.get?])
  exact ⟨hg, _, _, hvisits, hat, hagree.2 hpresent, hpresent⟩

/-- A turn that brings `null` for the question of the detour. -/
def blankTurn : TurnInput := { proposals := [⟨"ready", .null, .ofNat 1⟩] }

/-- The conversation about the detour with `null` for an answer. -/
def detourBlank : Conversation :=
  { detourAnswered with answers := [("ready", ⟨.null, 1, .ofNat 1⟩)] }

theorem blankTurn_departs :
    (Engine.ofSettings {}).Departs (detourGraph 1)
      ((Engine.ofSettings {}).run (detourGraph 1) [] []) (.turn blankTurn)
      detourBlank false
        ((Engine.ofSettings {}).reviewed (detourGraph 1) detourStart blankTurn) := by
  have haccepts : ((Engine.ofSettings {}).begun detourStart blankTurn).Accepts
      (Engine.ofSettings {}).traversal
      (detourGraph 1) ⟨"ready", .null, .ofNat 1⟩ ⟨.null, 1, .ofNat 1⟩ :=
    ⟨by decide +kernel, _, _, _, Conversation.owner?_of_scope rfl rfl, rfl, rfl⟩
  have hanswered : (Engine.ofSettings {}).answered (detourGraph 1) detourStart blankTurn =
      detourBlank :=
    Engine.answered_of_accepts rfl haccepts
  rw [← hanswered]
  exact .turn rfl rfl (Engine.held_of_accepts rfl haccepts)

/-- The question of the detour has no validator, so `null` is stored for it; the question is left,
and its key is not present. -/
theorem ask_left_without_presence :
    (detourGraph 1).IsCompiled ∧
      ∃ w area s, (Engine.ofSettings {}).Visits (detourGraph 1) [] [.turn blankTurn] w ∧
        w.AtQuestion (detourGraph 1) area s "ready" ∧ (∃ v, w.step (detourGraph 1) = .moved v) ∧
        (Guard.Expr.present (.answer "ready")).eval (detourGraph 1).predicates
          w.conversation.environment = .ok false := by
  have hvisits : (Engine.ofSettings {}).Visits (detourGraph 1) [] [.turn blankTurn]
      ⟨detourBlank, {}, false⟩ :=
    .walks blankTurn_departs (mem_moments_of_after? (m := 0) rfl (by decide))
  exact ⟨detourGraph_isCompiled 1, _, _, _, hvisits, ⟨rfl, rfl, rfl, rfl, rfl⟩, ⟨_, rfl⟩, rfl⟩

end Samples

end Parley

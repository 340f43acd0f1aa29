import Parley.Proofs.Conversation.Presence
import Parley.Proofs.Conversation.Selection
import Parley.Proofs.Guard.Connectives

/-!
# When a node is eligible

A node has up to four kinds of conditions: its guard, its `when`, its extra guards, and the keys
that it depends on.  They are read one by one and joined to one conjunction, in which those that are
conjunctions give way to their terms.  As joining keeps what expressions come to, the node is
eligible just when each of its conditions holds.

* `Node.ConditionsHold`: each condition of a node holds, said of the texts that the node declares;
* `compileNode_eligibility`: the clauses of a compiled node;
* `Host.eligible_iff_conditionsHold`.
-/

namespace Parley

variable {registry : Guard.Registry} {env : Guard.Environment}

/-! ### What a node says -/

/-- A text is an expression that is true. -/
def Guard.IsTrue (registry : Registry) (env : Environment) (text : String) : Prop :=
  ∃ e, parseExpr text = .ok e ∧ e.eval registry env = .ok true

/-- The guard, the `when` and the extra guards of a node are true, and the keys that it depends on
have answers other than `null`. -/
structure Node.ConditionsHold (registry : Guard.Registry) (env : Guard.Environment) (n : Node) :
    Prop where
  guard : ∀ text, n.guard = some text → Guard.IsTrue registry env text
  when : ∀ text, n.when = some text → Guard.IsTrue registry env text
  extraGuards : ∀ text ∈ n.extraGuards, Guard.IsTrue registry env text
  dependsOn : ∀ key ∈ n.dependsOn, ∃ value, env.answer key = some value ∧ value ≠ .null

theorem Node.conditionsHold_iff {n : Node} :
    n.ConditionsHold registry env ↔ (∀ text ∈ n.guardTexts, Guard.IsTrue registry env text) ∧
      ∀ key ∈ n.dependsOn, ∃ value, env.answer key = some value ∧ value ≠ .null := by
  simp only [guardTexts, List.forall_mem_append, Option.mem_toList]
  exact ⟨fun h => ⟨⟨⟨h.guard, h.when⟩, h.extraGuards⟩, h.dependsOn⟩,
    fun h => ⟨h.1.1.1, h.1.1.2, h.1.2, h.2⟩⟩

/-! ### What is compiled -/

section Compiled

variable {host : Host} {known : List ScopeId} {scope : ScopeId} {n : Node} {s : Step}
    {clauses : List Guard.Expr}

theorem compileClauses_eq_ok (h : compileClauses host scope n = .ok clauses) :
    ∃ exprs, List.Forall₂ (fun text e => Guard.compileExpr host.predicates text = .ok e)
      n.guardTexts exprs ∧
      clauses = exprs ++ n.dependsOn.map fun key => .present (.answer key) := by
  obtain ⟨exprs, hexprs, hclauses⟩ := bind_eq_ok.1 h
  exact ⟨exprs, (mapM_eq_ok.1 hexprs).imp fun _ _ => mapError_eq_ok.1, (pure_eq_ok.1 hclauses).symm⟩

theorem compileNode_eligibility (h : compileNode host known scope n = .ok s) :
    ∃ clauses, compileClauses host scope n = .ok clauses ∧
      s.eligibility = Guard.Expr.all clauses := by
  unfold compileNode at h
  obtain ⟨-, -, h⟩ := bind_eq_ok.1 h
  obtain ⟨clauses, hclauses, h⟩ := bind_eq_ok.1 h
  obtain ⟨validator, -, h⟩ := bind_eq_ok.1 h
  obtain ⟨subgraph, -, h⟩ := bind_eq_ok.1 h
  obtain ⟨paths, -, h⟩ := bind_eq_ok.1 h
  rw [← pure_eq_ok.1 h]
  exact ⟨clauses, hclauses, rfl⟩

/-- The clauses of a node are true just when its conditions hold. -/
theorem compileClauses_true_iff (h : compileClauses host scope n = .ok clauses) :
    (∀ c ∈ clauses, c.eval registry env = .ok true) ↔ n.ConditionsHold registry env := by
  obtain ⟨exprs, hexprs, rfl⟩ := compileClauses_eq_ok h
  rw [Node.conditionsHold_iff, List.forall_mem_append, List.forall_mem_map]
  refine and_congr ?_ (forall₂_congr fun key _ => ?_)
  · constructor
    · intro htrue text htext
      obtain ⟨e, he, hread⟩ := exists_of_forall₂_right hexprs.flip htext
      exact ⟨e, (Guard.compileExpr_eq_ok.1 hread).1, htrue e he⟩
    · intro htrue e he
      obtain ⟨text, htext, hread⟩ := exists_of_forall₂_right hexprs he
      obtain ⟨e', hparse, heval⟩ := htrue text htext
      cases (Guard.compileExpr_eq_ok.1 hread).1.symm.trans hparse
      exact heval
  · rw [Guard.Expr.eval_present]
    simp [Option.any_eq_true, Json.isNull_eq_false_iff]

theorem Step.isEligible_eq_holds :
    s.isEligible registry env =
      holds (s.eligibility.elim (.ok true) (Guard.Expr.eval registry env)) := by
  unfold isEligible
  cases s.eligibility <;> rfl

/-- A compiled node is eligible just when its conditions hold. -/
theorem compileNode_isEligible_iff (h : compileNode host known scope n = .ok s) :
    s.isEligible registry env = true ↔ n.ConditionsHold registry env := by
  obtain ⟨clauses, hclauses, heligibility⟩ := compileNode_eligibility h
  have hjoined : s.eligibility.elim (.ok true) (Guard.Expr.eval registry env) =
      Guard.Connective.and.scan registry env clauses := by
    rw [heligibility]
    exact Guard.Connective.and.eval_join clauses
  rw [Step.isEligible_eq_holds, holds_eq_true_iff, hjoined, ← compileClauses_true_iff hclauses]
  exact Guard.Connective.scan_eq_neutral_iff (k := .and)

end Compiled

/-- **Guards are combined to a conjunction.**  The conjunction of a list comes to what its
expressions come to one after the other, up to the first that is false or fails; and the
disjunction, up to the first that is true or fails.  Only where there are no terms there is no
expression, which counts as true, or as false.  So a node of a compiled flow is eligible exactly
when its guard, its `when` and each of its extra guards are true, and each key that it depends on
has an answer other than `null`. -/
theorem Host.eligible_iff_conditionsHold :
    (∀ (registry : Guard.Registry) (env : Guard.Environment) (es : List Guard.Expr),
      (Guard.Expr.all es).elim (.ok true) (Guard.Expr.eval registry env) =
        es.allM (Guard.Expr.eval registry env) ∧
      (Guard.Expr.any es).elim (.ok false) (Guard.Expr.eval registry env) =
        es.anyM (Guard.Expr.eval registry env)) ∧
    (∀ es, (Guard.Expr.all es = none ↔ ∀ e ∈ es, e = .and []) ∧
      (Guard.Expr.any es = none ↔ ∀ e ∈ es, e = .or [])) ∧
    ∀ (host : Host) (f : Flow) (g : Graph), host.compile f = .ok g →
      ∀ a ∈ g.areas, ∀ s ∈ a.steps, ∀ env,
      s.isEligible g.predicates env = true ↔ s.node.ConditionsHold g.predicates env := by
  refine ⟨fun registry env es => ?_, fun es => ?_, fun host f g hg a ha s hs env => ?_⟩
  · exact ⟨Guard.Connective.and.eval_join es, Guard.Connective.or.eval_join es⟩
  · exact ⟨Guard.Connective.join_eq_none_iff (k := .and),
      Guard.Connective.join_eq_none_iff (k := .or)⟩
  · obtain ⟨p, -, hpa⟩ := exists_of_forall₂_right (Host.compile_eq_ok hg).2.2 ha
    obtain ⟨n, -, hn⟩ := exists_of_forall₂_right (compileArea_steps hpa) hs
    rw [(compileNode_eq_ok hn).1]
    exact compileNode_isEligible_iff hn

namespace Samples

/-- A question with each kind of condition. -/
def companyNode : Node :=
  { Node.question "company" "company" "Which company are you with?" with
    guard := some "plan == 'pro'"
    when := some "name present"
    extraGuards := ["ctx.channel != 'sms'"]
    dependsOn := ["budget"] }

/-- A question with each kind of condition, and the end. -/
def intake : Flow where
  id := "intake"
  version := 1
  nodes := [companyNode, .terminal "done"]
  edges := [.always "company" "done"]

theorem compile_intake : ∃ g, Host.builtin.compile intake = .ok g :=
  exists_of_isOk (by decide +kernel)

/-- What is known of a customer, the budget among it. -/
def intakeEnvironment (budget : Json) : Guard.Environment where
  answer := Dict.get? [("budget", budget), ("name", .string "Ada"), ("plan", .string "pro")]
  context := Dict.get? [("channel", .string "web")]

theorem parseExpr_name : Guard.parseExpr "name present" = .ok (.present (.answer "name")) := by
  have hname : Guard.Derives .expression 64 [.name "name", .present] _ :=
    .conjunction (.unary (.atom (.present (.answer (by decide)) nofun nofun)))
  exact Guard.parseExpr_of_derives (by decide +kernel) (by decide +kernel) (by decide) hname

theorem parseExpr_channel :
    Guard.parseExpr "ctx.channel != 'sms'" =
      .ok (.compare (.context "channel") .ne (.value (.string "sms"))) := by
  have hchannel : Guard.Derives .expression 64
      [.name ("ctx." ++ "channel"), .compare .ne, .text "sms"] _ :=
    .conjunction (.unary (.atom (.compare .ne (.context (by decide)) (.text "sms"))))
  exact Guard.parseExpr_of_derives (by decide +kernel) (by decide +kernel) (by decide) hchannel

/-- With all else in place, the budget decides. -/
theorem companyNode_conditionsHold_iff {budget : Json} :
    companyNode.ConditionsHold registry (intakeEnvironment budget) ↔ budget ≠ .null := by
  constructor
  · intro h hnull
    obtain ⟨value, hvalue, hne⟩ := h.dependsOn "budget" List.mem_cons_self
    cases hvalue
    exact hne hnull
  · intro hbudget
    refine ⟨?_, ?_, List.forall_mem_singleton.2 ?_,
      List.forall_mem_singleton.2 ⟨budget, rfl, hbudget⟩⟩
    · rintro text ⟨⟩
      exact ⟨_, parseExpr_plan, rfl⟩
    · rintro text ⟨⟩
      exact ⟨_, parseExpr_name, rfl⟩
    · exact ⟨_, parseExpr_channel, rfl⟩

/-- The question is eligible once there is a budget, and not while `null` is stored for it. -/
theorem companyNode_isEligible :
    ∃ g a s, Host.builtin.compile intake = .ok g ∧ a ∈ g.areas ∧ s ∈ a.steps ∧
      s.node = companyNode ∧
      s.isEligible g.predicates (intakeEnvironment (.string "high")) = true ∧
      s.isEligible g.predicates (intakeEnvironment .null) = false := by
  obtain ⟨g, hg⟩ := compile_intake
  obtain ⟨a, ha, s, hs, hnode⟩ := Host.compile_node_mem hg intake.root_mem_scopes List.mem_cons_self
  have hcompany : s.node = companyNode := (compileNode_eq_ok hnode).1
  have heligible (budget : Json) : s.isEligible g.predicates (intakeEnvironment budget) = true ↔
      budget ≠ .null := by
    rw [Host.eligible_iff_conditionsHold.2.2 _ _ _ hg a ha s hs, hcompany,
      companyNode_conditionsHold_iff]
  refine ⟨g, a, s, hg, ha, hs, hcompany, (heligible _).2 nofun, ?_⟩
  rw [← Bool.not_eq_true, heligible]
  exact not_not.2 rfl

end Samples

end Parley

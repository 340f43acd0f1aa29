import Parley.Proofs.Guard.Connectives
import Parley.Proofs.Guard.Evaluation

/-!
# What a guard depends on

The answer keys of an expression are collected by going through all of it, and each is kept once; an
evaluation goes through the tree, may stop early and calls predicates.  The value is a function of
the operands that occur, so two environments in which these stand for the same values lead to the
same result.

* `Expr.Mentions`: an operand occurs in an expression;
* `Expr.mem_answerKeys_iff`: the keys are those that occur;
* `Expr.eval_congr`: the value depends on the operands that occur;
* `Expr.eval_eq_of_keys`.
-/

namespace Parley.Guard

namespace Expr

/-- An operand occurs in an expression. -/
inductive Mentions : Expr → Operand → Prop
  | present (o : Operand) : Mentions (.present o) o
  | left (o : Operand) (op : Comparison) (right : Operand) : Mentions (.compare o op right) o
  | right (left : Operand) (op : Comparison) (o : Operand) : Mentions (.compare left op o) o
  | argument {name : String} {args : List Operand} {o : Operand} :
      o ∈ args → Mentions (.call name args) o
  | not {e : Expr} {o : Operand} : Mentions e o → Mentions (.not e) o
  | and {terms : List Expr} {e : Expr} {o : Operand} : e ∈ terms → Mentions e o →
      Mentions (.and terms) o
  | or {terms : List Expr} {e : Expr} {o : Operand} : e ∈ terms → Mentions e o →
      Mentions (.or terms) o

variable {e : Expr} {o : Operand} {key : String}

theorem mentions_and_iff {terms : List Expr} :
    (and terms).Mentions o ↔ ∃ e ∈ terms, e.Mentions o := by
  constructor
  · intro h
    cases h with
    | and he ho => exact ⟨_, he, ho⟩
  · rintro ⟨e, he, ho⟩
    exact .and he ho

theorem mentions_or_iff {terms : List Expr} :
    (or terms).Mentions o ↔ ∃ e ∈ terms, e.Mentions o := by
  constructor
  · intro h
    cases h with
    | or he ho => exact ⟨_, he, ho⟩
  · rintro ⟨e, he, ho⟩
    exact .or he ho

/-! ### Collecting -/

theorem operandsOf_eq_flatMap (terms : List Expr) : operandsOf terms = terms.flatMap operands := by
  induction terms with
  | nil => rfl
  | cons e r ih => rw [operandsOf, ih, List.flatMap_cons]

/-- All operands that occur are collected, and no others. -/
theorem mem_operands_iff : o ∈ e.operands ↔ e.Mentions o := by
  induction e with
  | literal b =>
    rw [operands]
    exact iff_of_false List.not_mem_nil fun h => by cases h
  | present p =>
    rw [operands, List.mem_singleton]
    exact ⟨fun h => h ▸ .present p, fun h => by cases h; rfl⟩
  | compare left op right =>
    rw [operands, List.mem_pair]
    constructor
    · rintro (rfl | rfl)
      · exact .left _ _ _
      · exact .right _ _ _
    · rintro (_ | _)
      · exact .inl rfl
      · exact .inr rfl
  | call name args =>
    rw [operands]
    exact ⟨.argument, fun h => by cases h; assumption⟩
  | not e ih =>
    rw [operands, ih]
    exact ⟨.not, fun h => by cases h; assumption⟩
  | and terms ih =>
    rw [operands, operandsOf_eq_flatMap, List.mem_flatMap, mentions_and_iff]
    exact exists_congr fun e => and_congr_right (ih e)
  | or terms ih =>
    rw [operands, operandsOf_eq_flatMap, List.mem_flatMap, mentions_or_iff]
    exact exists_congr fun e => and_congr_right (ih e)

theorem mem_dedupFrom_iff {seen ks : List String} :
    key ∈ dedupFrom seen ks ↔ key ∈ ks ∧ key ∉ seen := by
  induction ks generalizing seen with
  | nil => simp [dedupFrom]
  | cons k r ih =>
    rw [dedupFrom]
    by_cases hk : key = k
    · subst hk
      split_ifs with hseen <;> simp [ih, hseen]
    · split_ifs with hseen <;> simp [ih, hk]

/-- The answer keys of an expression are those that occur in it, however often. -/
theorem mem_answerKeys_iff : key ∈ e.answerKeys ↔ e.Mentions (.answer key) := by
  rw [answerKeys, mem_dedupFrom_iff, List.mem_filterMap, ← mem_operands_iff]
  constructor
  · rintro ⟨⟨o, ho, hkey⟩, -⟩
    cases o with
    | answer k =>
      cases hkey
      exact ho
    | context | value => cases hkey
  · exact fun h => ⟨⟨_, h, rfl⟩, List.not_mem_nil⟩

end Expr

/-! ### Evaluating -/

variable {registry : Registry} {env env' : Environment}

theorem Connective.eval_build_congr (k : Connective) {es : List Expr}
    (h : ∀ e ∈ es, e.eval registry env = e.eval registry env') :
    (k.build es).eval registry env = (k.build es).eval registry env' := by
  rw [eval_build, eval_build]
  induction es with
  | nil => rw [scan_nil, scan_nil]
  | cons e es ih =>
    obtain ⟨he, hes⟩ := List.forall_mem_cons.1 h
    rw [scan_cons, scan_cons, he, ih hes]

namespace Expr

/-- The value of an expression depends on what the operands in it stand for. -/
theorem eval_congr {e : Expr} (h : ∀ o, e.Mentions o → env.resolve o = env'.resolve o) :
    e.eval registry env = e.eval registry env' := by
  induction e with
  | literal b => rw [eval, eval]
  | present o => rw [eval, eval, h o (.present o)]
  | compare left op right => rw [eval, eval, h left (.left _ _ _), h right (.right _ _ _)]
  | call name args =>
    have hargs : args.map env.resolve = args.map env'.resolve :=
      List.map_congr_left fun o ho => h o (.argument ho)
    rw [eval, eval, hargs]
  | not e ih => rw [eval, eval, ih fun o ho => h o (.not ho)]
  | and terms ih =>
    exact Connective.and.eval_build_congr fun e he => ih e he fun o ho => h o (.and he ho)
  | or terms ih =>
    exact Connective.or.eval_build_congr fun e he => ih e he fun o ho => h o (.or he ho)

/-- **A guard reads nothing but its keys.**  Where the answers agree on each of its answer keys, and
the contexts on each name that occurs after `ctx.`, an expression has the same value, or fails in
the same way; what else is answered and what else stands in the context makes no difference. -/
theorem eval_eq_of_keys {e : Expr} (registry : Registry)
    (hanswers : ∀ key ∈ e.answerKeys, env.answer key = env'.answer key)
    (hcontext : ∀ name, e.Mentions (.context name) → env.context name = env'.context name) :
    e.eval registry env = e.eval registry env' := by
  refine eval_congr fun o ho => ?_
  cases o with
  | answer key =>
    rw [Environment.resolve, Environment.resolve, hanswers key (mem_answerKeys_iff.2 ho)]
  | context name => rw [Environment.resolve, Environment.resolve, hcontext name ho]
  | value v => rfl

end Expr

/-- The environment of `tierEnvironment`, with a further answer and a further context value. -/
def crowdedEnvironment (pattern : String) : Environment where
  answer :=
    Dict.get? [("code", .string "A-1"), ("note", .string "call back"), ("tier", .string "gold")]
  context := Dict.get? [("channel", .string "sms"), ("rule", .string pattern)]

/-- The rule for tiers fails in the same way whatever note is taken and whatever the channel is. -/
theorem tierRule_keys :
    tierRule.answerKeys = ["tier", "code"] ∧
      tierRule.eval .builtin (crowdedEnvironment "^B") =
        .error (.typeMismatch .gt .string .boolean) := by
  have hkeys : tierRule.answerKeys = ["tier", "code"] := by decide +kernel
  have hnames : ∀ name, tierRule.Mentions (.context name) → name = "rule" := by
    intro name h
    simpa [tierRule, Expr.operands, Expr.operandsOf] using Expr.mem_operands_iff.2 h
  have hplain : tierRule.eval .builtin (tierEnvironment "^B") =
      .error (.typeMismatch .gt .string .boolean) := by
    decide +kernel
  refine ⟨hkeys, ?_⟩
  rw [← hplain]
  refine Expr.eval_eq_of_keys .builtin ?_ fun name h => ?_
  · rw [hkeys]
    exact List.forall_mem_cons.2 ⟨rfl, List.forall_mem_singleton.2 rfl⟩
  · rw [hnames name h]
    rfl

end Parley.Guard

import Parley.Proofs.Guard.Connectives
import Parley.Proofs.Guard.Shown

/-!
# Checked guards

A guard is checked before any answer is known.  The check goes through a flat list of calls; the
evaluation goes through the tree and may stop early.  All that it comes to is on the list, so each
call finds its predicate, with as many values as that one takes, and what is left to fail can be
told in full.

* `Expr.Evaluates`: what an evaluation comes to;
* `Expr.Fails`, `Expr.FailsBuiltin`: a comparison without an order, or a predicate that fails;
* `Expr.eval_eq_error_iff`: a checked expression fails where one of these does;
* `Predicate.IsTotal`, `Registry.call_builtin_eq_error`: when the built-in predicates fail;
* `compileExpr_sound`.
-/

namespace Parley.Guard

variable {registry : Registry} {env : Environment} {err : Error}

namespace Expr

/-! ### What an evaluation comes to -/

/-- Evaluating the first expression comes to the second one. -/
inductive Evaluates (registry : Registry) (env : Environment) : Expr → Expr → Prop
  | self (e : Expr) : Evaluates registry env e e
  | not {e leaf : Expr} : Evaluates registry env e leaf → Evaluates registry env (.not e) leaf
  | and {before after : List Expr} {e leaf : Expr} :
      (∀ t ∈ before, t.eval registry env = .ok true) →
      Evaluates registry env e leaf → Evaluates registry env (.and (before ++ e :: after)) leaf
  | or {before after : List Expr} {e leaf : Expr} :
      (∀ t ∈ before, t.eval registry env = .ok false) →
      Evaluates registry env e leaf → Evaluates registry env (.or (before ++ e :: after)) leaf

theorem callsOf_eq_flatMap (terms : List Expr) : callsOf terms = terms.flatMap calls := by
  induction terms with
  | nil => rfl
  | cons e r ih => rw [callsOf, ih, List.flatMap_cons]

/-- All calls that an evaluation comes to are on the list. -/
theorem Evaluates.calls_subset {e leaf : Expr} (h : e.Evaluates registry env leaf) :
    leaf.calls ⊆ e.calls := by
  induction h with
  | self e => exact List.Subset.refl _
  | not _ ih => rwa [calls]
  | and _ _ ih | or _ _ ih =>
    rw [calls, callsOf_eq_flatMap, List.flatMap_append, List.flatMap_cons]
    exact fun call hcall => List.mem_append_right _ (List.mem_append_left _ (ih hcall))

theorem eval_not_eq_error_iff {e : Expr} :
    (Expr.not e).eval registry env = .error err ↔ e.eval registry env = .error err := by
  rw [eval]
  cases e.eval registry env <;> simp [Except.map]

/-- What an evaluation comes to fails it. -/
theorem Evaluates.eval_eq_error {e leaf : Expr} (h : e.Evaluates registry env leaf)
    (hleaf : leaf.eval registry env = .error err) : e.eval registry env = .error err := by
  induction h with
  | self e => exact hleaf
  | not _ ih => exact eval_not_eq_error_iff.2 (ih hleaf)
  | and hbefore _ ih =>
    exact Connective.and.eval_build_eq_error_iff.2 ⟨_, _, _, rfl, hbefore, ih hleaf⟩
  | or hbefore _ ih =>
    exact Connective.or.eval_build_eq_error_iff.2 ⟨_, _, _, rfl, hbefore, ih hleaf⟩

/-! ### What can fail -/

/-- A comparison of two values without an order fails, and a call fails as its predicate does. -/
inductive Fails (registry : Registry) (env : Environment) : Expr → Error → Prop
  | compare {left right : Operand} {op : Comparison} {x y : Json} : op.isOrdering = true →
      env.resolve left = some x → env.resolve right = some y → order? x y = none →
      Fails registry env (.compare left op right) (.typeMismatch op (kind x) (kind y))
  | call {name : String} {args : List Operand} {p : Predicate} {err : Error} :
      registry.get? name = some p →
      p.arity.accepts args.length = true → p.call (args.map env.resolve) = .error err →
      Fails registry env (.call name args) err

/-- What can fail of the built-in predicates is a pattern, unless it is a literal. -/
inductive FailsBuiltin (env : Environment) : Expr → Error → Prop
  | compare {left right : Operand} {op : Comparison} {x y : Json} : op.isOrdering = true →
      env.resolve left = some x → env.resolve right = some y → order? x y = none →
      FailsBuiltin env (.compare left op right) (.typeMismatch op (kind x) (kind y))
  | matching {value rule : Operand} {subject text : String} {fault : Pattern.Error} :
      rule.literal? = none →
      (env.resolve value).bind text? = some subject → env.resolve rule = some (.string text) →
      Pattern.parse? text = .error fault →
      FailsBuiltin env (.call "matches" [value, rule]) (.invalidArgument "matches" fault.message)

/-- An expression that may fail although nothing in it is evaluated before. -/
def IsLeaf : Expr → Prop
  | .compare _ _ _ | .call _ _ => True
  | _ => False

/-- An expression fails where it comes to a comparison or a call that does. -/
theorem exists_leaf_of_eval_eq_error {e : Expr} (h : e.eval registry env = .error err) :
    ∃ leaf, e.Evaluates registry env leaf ∧ leaf.IsLeaf ∧ leaf.eval registry env = .error err := by
  induction e with
  | literal | present =>
    rw [eval] at h
    cases h
  | compare | call => exact ⟨_, .self _, trivial, h⟩
  | not e ih =>
    obtain ⟨leaf, hleaf, h⟩ := ih (eval_not_eq_error_iff.1 h)
    exact ⟨leaf, .not hleaf, h⟩
  | and terms ih =>
    obtain ⟨before, e, after, rfl, hbefore, he⟩ := Connective.and.eval_build_eq_error_iff.1 h
    obtain ⟨leaf, hleaf, h⟩ := ih e List.mem_append_cons_self he
    exact ⟨leaf, .and hbefore hleaf, h⟩
  | or terms ih =>
    obtain ⟨before, e, after, rfl, hbefore, he⟩ := Connective.or.eval_build_eq_error_iff.1 h
    obtain ⟨leaf, hleaf, h⟩ := ih e List.mem_append_cons_self he
    exact ⟨leaf, .or hbefore hleaf, h⟩

end Expr

theorem compare_eq_error_iff {l r : Json} {op : Comparison} :
    compare l op r = .error err ↔
      op.isOrdering = true ∧ order? l r = none ∧ err = .typeMismatch op (kind l) (kind r) := by
  unfold compare
  cases op with
  | eq | ne => simp [Comparison.isOrdering]
  | lt | le | gt | ge => cases order? l r <;> simp [Comparison.isOrdering, eq_comm]

/-! ### Checked expressions -/

theorem Registry.resolve_eq_ok {name : String} {count : Nat} {p : Predicate} :
    registry.resolve name count = .ok p ↔ registry.get? name = some p ∧
      p.arity.accepts count = true := by
  unfold resolve
  cases hname : registry.get? name with
  | none => simp
  | some q =>
    simp only [Option.some.injEq]
    split_ifs with haccepts
    · constructor
      · rintro ⟨⟩
        exact ⟨rfl, haccepts⟩
      · rintro ⟨rfl, -⟩
        rfl
    · constructor
      · nofun
      · rintro ⟨rfl, h⟩
        exact absurd h haccepts

theorem Registry.check_eq_ok {name : String} {args : List Operand} :
    registry.check name args = .ok () ↔
      ∃ p, registry.resolve name args.length = .ok p ∧ p.check args = .ok () :=
  bind_eq_ok

theorem compileExpr_eq_ok {text : String} {e : Expr} :
    compileExpr registry text = .ok e ↔ parseExpr text = .ok e ∧ e.check registry = .ok () := by
  unfold compileExpr
  simp only [bind_eq_ok, pure_eq_ok]
  constructor
  · rintro ⟨e, hparse, ⟨⟩, hcheck, rfl⟩
    exact ⟨hparse, hcheck⟩
  · rintro ⟨hparse, hcheck⟩
    exact ⟨e, hparse, (), hcheck, rfl⟩

namespace Expr

variable {e : Expr}

/-- The calls that a checked expression comes to have passed the check. -/
theorem Evaluates.check_call {name : String} {args : List Operand}
    (hcheck : e.check registry = .ok ()) (h : e.Evaluates registry env (.call name args)) :
    registry.check name args = .ok () := by
  have hmem : (name, args) ∈ e.calls :=
    h.calls_subset (by rw [calls]; exact List.mem_singleton_self _)
  exact forM_eq_ok.1 hcheck (name, args) hmem

theorem eval_call {name : String} {args : List Operand} {p : Predicate}
    (h : registry.resolve name args.length = .ok p) :
    (call name args).eval registry env = p.call (args.map env.resolve) := by
  rw [eval, h]
  rfl

theorem eval_compare_eq_error_iff {left right : Operand} {op : Comparison} :
    (compare left op right).eval registry env = .error err ↔
      Fails registry env (.compare left op right) err := by
  rw [eval]
  constructor
  · intro h
    split at h
    · rename_i x y hx hy
      obtain ⟨hop, horder, rfl⟩ := compare_eq_error_iff.1 h
      exact .compare hop hx hy horder
    · cases h
  · rintro ⟨hop, hx, hy, horder⟩
    rw [hx, hy]
    exact compare_eq_error_iff.2 ⟨hop, horder, rfl⟩

/-- **A checked expression fails where it comes to a comparison or a call that fails, and as that
one does.** -/
theorem eval_eq_error_iff (hcheck : e.check registry = .ok ()) :
    e.eval registry env = .error err ↔
      ∃ leaf, e.Evaluates registry env leaf ∧ leaf.Fails registry env err := by
  constructor
  · intro h
    obtain ⟨leaf, hleaf, hkind, h⟩ := exists_leaf_of_eval_eq_error h
    refine ⟨leaf, hleaf, ?_⟩
    cases leaf with
    | compare left op right => exact eval_compare_eq_error_iff.1 h
    | call name args =>
      obtain ⟨p, hp, -⟩ := Registry.check_eq_ok.1 (hleaf.check_call hcheck)
      rw [eval_call hp] at h
      exact .call (Registry.resolve_eq_ok.1 hp).1 (Registry.resolve_eq_ok.1 hp).2 h
    | literal | present | not | and | or => exact hkind.elim
  · rintro ⟨leaf, hleaf, hfails⟩
    refine hleaf.eval_eq_error ?_
    cases hfails with
    | compare hop hx hy horder => exact eval_compare_eq_error_iff.2 (.compare hop hx hy horder)
    | call hp haccepts herr => rwa [eval_call (Registry.resolve_eq_ok.2 ⟨hp, haccepts⟩)]

end Expr

/-! ### The built-in predicates -/

namespace Arity

variable {n k : Nat}

theorem accepts_iff (a : Arity) : a.accepts k = true ↔ a.min ≤ k ∧ ∀ m, a.max = some m → k ≤ m := by
  simp [accepts, Option.all_eq_true]

theorem accepts_exactly : (exactly n).accepts k = true ↔ k = n := by
  rw [accepts_iff]
  simp only [exactly, Option.some.injEq, forall_eq']
  omega

theorem accepts_atLeast : (atLeast n).accepts k = true ↔ n ≤ k := by
  simp [accepts_iff, atLeast]

end Arity

namespace Predicate

/-- A predicate that always decides, called with as many values as it takes. -/
def IsTotal (p : Predicate) : Prop :=
  ∀ values, p.arity.accepts values.length = true → ∃ b, p.call values = .ok b

theorem contains_isTotal : contains.IsTotal := by
  intro values h
  obtain ⟨haystack, needle, rfl⟩ := List.length_eq_two.1 (Arity.accepts_exactly.1 h)
  simp only [contains]
  split
  · exact ⟨_, rfl⟩
  · split <;> exact ⟨_, rfl⟩
  · exact ⟨_, rfl⟩

theorem oneOf_isTotal : oneOf.IsTotal := by
  intro values h
  match values with
  | [] => exact absurd (Arity.accepts_atLeast.1 h) (by decide)
  | none :: _ => exact ⟨_, rfl⟩
  | some _ :: _ => exact ⟨_, rfl⟩

theorem between_isTotal : between.IsTotal := by
  intro values h
  obtain ⟨value, lo, hi, rfl⟩ := List.length_eq_three.1 (Arity.accepts_exactly.1 h)
  simp only [between]
  split <;> exact ⟨_, rfl⟩

theorem nonEmpty_isTotal : nonEmpty.IsTotal := by
  intro values h
  obtain ⟨value, rfl⟩ := List.length_eq_one_iff.1 (Arity.accepts_exactly.1 h)
  simp only [nonEmpty]
  split <;> exact ⟨_, rfl⟩

theorem isNumber_isTotal : isNumber.IsTotal := by
  intro values h
  obtain ⟨value, rfl⟩ := List.length_eq_one_iff.1 (Arity.accepts_exactly.1 h)
  exact ⟨_, rfl⟩

theorem pattern_eq_error_iff {text : String} :
    pattern text = .error err ↔
      ∃ fault, Pattern.parse? text = .error fault ∧
        err = .invalidArgument "matches" fault.message := by
  unfold pattern
  cases Pattern.parse? text <;> simp [Except.mapError, eq_comm]

/-- Where a call of `matches` has been checked, it fails only for a pattern that is no literal. -/
theorem matching_eq_error {args : List Operand} (hcheck : matching.check args = .ok ())
    (haccepts : matching.arity.accepts args.length = true)
    (h : matching.call (args.map env.resolve) = .error err) :
    (Expr.call "matches" args).FailsBuiltin env err := by
  obtain ⟨value, rule, rfl⟩ := List.length_eq_two.1 (Arity.accepts_exactly.1 haccepts)
  simp only [matching, List.map_cons, List.map_nil] at h
  split at h
  · rename_i subject text hsubject hrule
    have hpattern : pattern text = .error err := by
      cases hread : pattern text <;> rw [hread] at h <;> cases h
      rfl
    obtain ⟨fault, hfault, rfl⟩ := pattern_eq_error_iff.1 hpattern
    refine .matching ?_ hsubject hrule hfault
    cases rule with
    | answer | context => rfl
    | value v =>
      -- the check has read a literal pattern already
      cases hrule
      simp only [matching, hpattern] at hcheck
      cases hcheck
  · cases h

theorem call_matching_eq_error {value rule : Option Json} {subject text : String}
    {fault : Pattern.Error} (hsubject : value.bind text? = some subject)
    (hrule : rule = some (.string text)) (hfault : Pattern.parse? text = .error fault) :
    matching.call [value, rule] = .error (.invalidArgument "matches" fault.message) := by
  simp only [matching, hsubject, hrule, pattern_eq_error_iff.2 ⟨fault, hfault, rfl⟩]
  rfl

end Predicate

namespace Registry

/-- A predicate that is found by name was found before, or has been registered under its name. -/
theorem get?_foldl_register {ps : List Predicate} {name : String} {p : Predicate}
    (h : (ps.foldl register registry).get? name = some p) :
    registry.get? name = some p ∨ (p ∈ ps ∧ p.name = name) := by
  induction ps generalizing registry with
  | nil => exact .inl h
  | cons q ps ih =>
    rcases ih h with hbefore | ⟨hmem, hname⟩
    · rw [register, Dict.get?_insert] at hbefore
      split_ifs at hbefore with hname
      · cases hbefore
        exact .inr ⟨List.mem_cons_self, hname⟩
      · exact .inl hbefore
    · exact .inr ⟨List.mem_cons_of_mem _ hmem, hname⟩

/-- The built-in predicates always decide, but for `matches`. -/
theorem get?_builtin {name : String} {p : Predicate} (h : builtin.get? name = some p) :
    p.name = name ∧ (p.IsTotal ∨ p = .matching) := by
  obtain hnone | ⟨hmem, hname⟩ := get?_foldl_register h
  · cases hnone
  · refine ⟨hname, ?_⟩
    simp only [List.mem_cons, List.not_mem_nil, or_false] at hmem
    rcases hmem with rfl | rfl | rfl | rfl | rfl | rfl
    · exact .inl Predicate.contains_isTotal
    · exact .inl Predicate.oneOf_isTotal
    · exact .inr rfl
    · exact .inl Predicate.between_isTotal
    · exact .inl Predicate.nonEmpty_isTotal
    · exact .inl Predicate.isNumber_isTotal

/-- A call of a built-in predicate that has been checked fails only for a pattern that is no
literal. -/
theorem call_builtin_eq_error {name : String} {args : List Operand} {p : Predicate}
    (hp : builtin.get? name = some p) (haccepts : p.arity.accepts args.length = true)
    (hcheck : p.check args = .ok ()) (h : p.call (args.map env.resolve) = .error err) :
    (Expr.call name args).FailsBuiltin env err := by
  obtain ⟨rfl, htotal | rfl⟩ := get?_builtin hp
  · obtain ⟨b, hb⟩ := htotal (args.map env.resolve) (by rwa [List.length_map])
    rw [hb] at h
    cases h
  · exact Predicate.matching_eq_error hcheck haccepts h

theorem get?_builtin_matches : builtin.get? "matches" = some .matching := rfl

end Registry

namespace Expr

theorem FailsBuiltin.fails {leaf : Expr} (h : leaf.FailsBuiltin env err) :
    leaf.Fails .builtin env err := by
  cases h with
  | compare hop hx hy horder => exact .compare hop hx hy horder
  | matching _ hsubject hrule hfault =>
    exact .call Registry.get?_builtin_matches rfl
      (Predicate.call_matching_eq_error hsubject hrule hfault)

/-- With the built-in predicates, a checked expression fails where it comes to values that have no
order, or to a pattern that is read and found wrong only then. -/
theorem eval_builtin_eq_error_iff {e : Expr} (hcheck : e.check .builtin = .ok ()) :
    e.eval .builtin env = .error err ↔
      ∃ leaf, e.Evaluates .builtin env leaf ∧ leaf.FailsBuiltin env err := by
  rw [eval_eq_error_iff hcheck]
  constructor
  · rintro ⟨leaf, hreach, hfails⟩
    refine ⟨leaf, hreach, ?_⟩
    cases hfails with
    | compare hop hx hy horder => exact .compare hop hx hy horder
    | call hp haccepts hcalled =>
      obtain ⟨q, hq, hargs⟩ := Registry.check_eq_ok.1 (hreach.check_call hcheck)
      cases hp.symm.trans (Registry.resolve_eq_ok.1 hq).1
      exact Registry.call_builtin_eq_error hp haccepts hargs hcalled
  · rintro ⟨leaf, hreach, hfails⟩
    exact ⟨leaf, hreach, hfails.fails⟩

end Expr

/-- **Checked guards are safe to evaluate.**  Every call that the evaluation of a checked expression
comes to finds its predicate, which takes as many values as there are, so the evaluation fails
exactly where it comes to two values that have no order or to a predicate that fails by itself.
With the built-in predicates, none of them misses a value that it looks at, and the only one that
fails by itself is `matches`, for a pattern that an answer or a context value holds. -/
theorem compileExpr_sound {text : String} {e : Expr} (h : compileExpr registry text = .ok e)
    (env : Environment) :
    (∀ name args, e.Evaluates registry env (.call name args) →
      ∃ p, registry.resolve name args.length = .ok p ∧
        (Expr.call name args).eval registry env = p.call (args.map env.resolve)) ∧
    (∀ err, e.eval registry env = .error err ↔
      ∃ leaf, e.Evaluates registry env leaf ∧ leaf.Fails registry env err) ∧
    (registry = .builtin →
      (∀ name args p, e.Evaluates registry env (.call name args) → registry.get? name = some p →
        ∀ other arity count, p.call (args.map env.resolve) ≠
          Predicate.wrongCount other arity count) ∧
      ∀ err, e.eval registry env = .error err ↔
        ∃ leaf, e.Evaluates registry env leaf ∧ leaf.FailsBuiltin env err) := by
  have hcheck := (compileExpr_eq_ok.1 h).2
  refine ⟨fun name args hreach => ?_, fun err => Expr.eval_eq_error_iff hcheck, ?_⟩
  · obtain ⟨p, hp, -⟩ := Registry.check_eq_ok.1 (hreach.check_call hcheck)
    exact ⟨p, hp, Expr.eval_call hp⟩
  · rintro rfl
    refine ⟨fun name args p hreach hp other arity count hwrong => ?_,
      fun err => Expr.eval_builtin_eq_error_iff hcheck⟩
    obtain ⟨q, hq, hargs⟩ := Registry.check_eq_ok.1 (hreach.check_call hcheck)
    obtain ⟨hq, haccepts⟩ := Registry.resolve_eq_ok.1 hq
    cases hp.symm.trans hq
    have herr : p.call (args.map env.resolve) = .error (.arity other arity count) := hwrong
    cases Registry.call_builtin_eq_error hp haccepts hargs herr

/-- A condition that reads a pattern from the context, and asks for an order of a text and a truth
value. -/
def tierRule : Expr :=
  .and
    [.not
      (.or [.not (.present (.answer "tier")), .call "matches" [.answer "code", .context "rule"]]),
    .or [.literal false, .compare (.answer "tier") .gt (.value (.bool true))]]

/-- A tier, a code, and a pattern for the code. -/
def tierEnvironment (pattern : String) : Environment where
  answer := Dict.get? [("tier", .string "gold"), ("code", .string "A-1")]
  context := Dict.get? [("rule", .string pattern)]

/-- Where the pattern does not match, the order is asked for and there is none; where it is no
pattern, that comes first. -/
theorem compileExpr_sound_tier :
    compileExpr .builtin
        "NOT (tier missing OR matches(code, ctx.rule)) AND (FALSE OR tier > true)" = .ok tierRule ∧
      tierRule.eval .builtin (tierEnvironment "^B") = .error (.typeMismatch .gt .string .boolean) ∧
      ∃ message, tierRule.eval .builtin (tierEnvironment "(") =
        .error (.invalidArgument "matches" message) := by
  have hparse :
      parseExpr "NOT (tier missing OR matches(code, ctx.rule)) AND (FALSE OR tier > true)" =
        .ok tierRule := by
    have htier : Derives .conjunction 62 [.name "tier", .missing]
        (.not (.present (.answer "tier"))) :=
      .unary (.atom (.missing (.answer (by decide)) nofun nofun))
    have hargs : IsOperands [.name "code", .comma, .name ("ctx." ++ "rule")]
        [.answer "code", .context "rule"] :=
      .more (.answer (by decide)) (.one (.context (by decide)))
    have hmatches : Derives .expression 62
        [.name "matches", .openParen, .name "code", .comma, .name ("ctx." ++ "rule"), .closeParen]
        (.call "matches" [.answer "code", .context "rule"]) :=
      .conjunction (.unary (.atom (.call "matches" hargs)))
    have horder : Derives .expression 63 [.false, .or, .name "tier", .compare .gt, .true] _ :=
      (Derives.unary (.atom .untruth)).or
        (.conjunction (.unary (.atom (.compare .gt (.answer (by decide)) .truth))))
    exact parseExpr_of_derives (by decide +kernel) (by decide +kernel) (by decide)
      (.conjunction ((htier.or hmatches).group.not.and (.unary horder.group)))
  have hcheck : tierRule.check .builtin = .ok () := by decide +kernel
  have hcompile := compileExpr_eq_ok.2 ⟨hparse, hcheck⟩
  refine ⟨hcompile, ?_, ?_⟩
  · have hleaf : (Expr.compare (.answer "tier") .gt (.value (.bool true))).FailsBuiltin
        (tierEnvironment "^B") (.typeMismatch .gt .string .boolean) :=
      .compare (x := .string "gold") (y := .bool true) rfl rfl rfl (by decide +kernel)
    have hreach : tierRule.Evaluates .builtin (tierEnvironment "^B")
        (.compare (.answer "tier") .gt (.value (.bool true))) := by
      refine @Expr.Evaluates.and _ _ [_] _ _ _ (List.forall_mem_singleton.2 ?_)
        (@Expr.Evaluates.or _ _ [_] _ _ _ (List.forall_mem_singleton.2 rfl) (.self _))
      decide +kernel
    exact (((compileExpr_sound hcompile _).2.2 rfl).2 _).2 ⟨_, hreach, hleaf⟩
  · have hfault : (Pattern.parse? "(").toOption.isNone := by decide +kernel
    cases hread : Pattern.parse? "(" with
    | ok p =>
      rw [hread] at hfault
      cases hfault
    | error fault =>
      have hsubject : ((tierEnvironment "(").resolve (.answer "code")).bind text? = some "A-1" :=
        rfl
      have hleaf : (Expr.call "matches" [.answer "code", .context "rule"]).FailsBuiltin
          (tierEnvironment "(") _ :=
        .matching rfl hsubject rfl hread
      have hreach : tierRule.Evaluates .builtin (tierEnvironment "(")
          (.call "matches" [.answer "code", .context "rule"]) := by
        refine @Expr.Evaluates.and _ _ [] _ _ _ nofun
          (.not (@Expr.Evaluates.or _ _ [_] _ _ _ (List.forall_mem_singleton.2 ?_) (.self _)))
        decide +kernel
      exact ⟨_, (((compileExpr_sound hcompile _).2.2 rfl).2 _).2 ⟨_, hreach, hleaf⟩⟩

end Parley.Guard

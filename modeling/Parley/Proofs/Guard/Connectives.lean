import Mathlib
import Parley.Guard.Eval
import Parley.Proofs.Checked
import Parley.Proofs.Guard.Grammar

/-!
# The values of connectives

A connective asks for the values of its terms from left to right, until one of them decides or
fails.  A list of expressions is joined flat: a part with the same connective gives way to its own
terms.  The values are then asked for in the same order, so the same one decides, and the same error
comes first.

* `Expr.induction_terms`: induction on expressions;
* `Connective.neutral`, `Connective.scan`: asking for values from left to right;
* `Connective.scan_eq_neutral_iff`, `Connective.scan_eq_error_iff`: when all values are neutral, and
  when one fails;
* `Connective.eval_build`, `Connective.scan_flatMap_terms`: the terms of terms;
* `Connective.eval_join`: what expressions come to when they are joined.
-/

namespace Parley.Guard

variable {registry : Registry} {env : Environment} {err : Error}

/-- Induction on expressions; what is shown of a connective may be taken for granted of its
terms. -/
@[elab_as_elim, induction_eliminator]
theorem Expr.induction_terms {motive : Expr → Prop} (literal : ∀ b, motive (.literal b))
    (present : ∀ o, motive (.present o))
    (compare : ∀ left op right, motive (.compare left op right))
    (call : ∀ name args, motive (.call name args)) (not : ∀ e, motive e → motive (.not e))
    (and : ∀ terms, (∀ e ∈ terms, motive e) → motive (.and terms))
    (or : ∀ terms, (∀ e ∈ terms, motive e) → motive (.or terms)) (e : Expr) : motive e := by
  refine @Expr.rec motive (fun terms => ∀ e ∈ terms, motive e) literal present compare call
    not and or ?_ ?_ e
  · exact nofun
  · exact fun e terms he hterms => List.forall_mem_cons.2 ⟨he, hterms⟩

namespace Connective

variable {k : Connective} {e : Expr} {es : List Expr}

/-- The value that decides nothing. -/
def neutral : Connective → Bool
  | .and => true
  | .or => false

/-- Ask for the values of expressions from left to right.  For a conjunction the first one that is
false or fails decides, for a disjunction the first one that is true or fails. -/
def scan (k : Connective) (registry : Registry) (env : Environment) (es : List Expr) :
    Except Error Bool :=
  match k with
  | .and => es.allM (Expr.eval registry env)
  | .or => es.anyM (Expr.eval registry env)

theorem scan_nil (k : Connective) : k.scan registry env [] = .ok k.neutral := by
  cases k <;> rfl

theorem scan_cons (k : Connective) (e : Expr) (es : List Expr) :
    k.scan registry env (e :: es) =
      e.eval registry env >>= fun b => if b = k.neutral then k.scan registry env es else .ok b := by
  cases k with
  | and =>
    rw [scan, List.allM]
    rcases e.eval registry env with err | (_ | _) <;> rfl
  | or =>
    rw [scan, List.anyM]
    rcases e.eval registry env with err | (_ | _) <;> rfl

theorem scan_singleton (k : Connective) (e : Expr) :
    k.scan registry env [e] = e.eval registry env := by
  rw [scan_cons, scan_nil]
  cases e.eval registry env with
  | error err => rfl
  | ok b =>
    show (if b = k.neutral then .ok k.neutral else .ok b) = Except.ok b
    split_ifs with h
    · rw [h]
    · rfl

theorem scan_append (k : Connective) (as bs : List Expr) :
    k.scan registry env (as ++ bs) =
      k.scan registry env as >>= fun b =>
        if b = k.neutral then k.scan registry env bs else .ok b := by
  induction as with
  | nil =>
    rw [scan_nil]
    exact (if_pos rfl).symm
  | cons e as ih =>
    rw [List.cons_append, scan_cons, scan_cons, ih, bind_assoc]
    refine bind_congr fun b => ?_
    split_ifs with h
    · rfl
    · exact (if_neg h).symm

/-- All values are asked for just when each of them is neutral. -/
theorem scan_eq_neutral_iff :
    k.scan registry env es = .ok k.neutral ↔ ∀ e ∈ es, e.eval registry env = .ok k.neutral := by
  induction es with
  | nil => simp [scan_nil]
  | cons e es ih =>
    rw [scan_cons, bind_eq_ok, List.forall_mem_cons, ← ih]
    constructor
    · rintro ⟨b, he, hrest⟩
      split_ifs at hrest with h
      · exact ⟨h ▸ he, hrest⟩
      · cases hrest
        exact absurd rfl h
    · rintro ⟨he, hes⟩
      exact ⟨k.neutral, he, (if_pos rfl).trans hes⟩

/-- Asking for values fails where one of them fails and all before it are neutral. -/
theorem scan_eq_error_iff :
    k.scan registry env es = .error err ↔ ∃ before e after, es = before ++ e :: after ∧
      (∀ t ∈ before, t.eval registry env = .ok k.neutral) ∧ e.eval registry env = .error err := by
  constructor
  · intro h
    induction es with
    | nil =>
      rw [scan_nil] at h
      cases h
    | cons e es ih =>
      rw [scan_cons, bind_eq_error] at h
      rcases h with he | ⟨b, he, hrest⟩
      · exact ⟨[], e, es, rfl, List.forall_mem_nil _, he⟩
      · split_ifs at hrest with hb
        obtain ⟨before, t, after, rfl, hbefore, ht⟩ := ih hrest
        exact ⟨e :: before, t, after, rfl, List.forall_mem_cons.2 ⟨hb ▸ he, hbefore⟩, ht⟩
  · rintro ⟨before, e, after, rfl, hbefore, he⟩
    rw [scan_append, scan_eq_neutral_iff.2 hbefore, scan_cons, he]
    exact if_pos rfl

/-- A connective asks for the values of its terms. -/
theorem eval_build (k : Connective) (es : List Expr) :
    (k.build es).eval registry env = k.scan registry env es := by
  induction es with
  | nil => cases k <;> rw [build, Expr.eval] <;> rfl
  | cons e es ih =>
    rw [scan_cons, ← ih]
    cases k with
    | and =>
      rw [build, Expr.eval, Expr.eval, Expr.evalAll]
      rcases e.eval registry env with err | (_ | _) <;> rfl
    | or =>
      rw [build, Expr.eval, Expr.eval, Expr.evalAny]
      rcases e.eval registry env with err | (_ | _) <;> rfl

theorem eval_build_eq_error_iff (k : Connective) {es : List Expr} :
    (k.build es).eval registry env = .error err ↔ ∃ before e after, es = before ++ e :: after ∧
      (∀ t ∈ before, t.eval registry env = .ok k.neutral) ∧ e.eval registry env = .error err := by
  rw [eval_build, scan_eq_error_iff]

theorem scan_terms (k : Connective) (e : Expr) :
    k.scan registry env (k.terms e) = e.eval registry env := by
  rcases k.terms_cases e with halone | hbuild
  · rw [halone, scan_singleton]
  · rw [← eval_build, ← hbuild]

/-- Parts may give way to their terms. -/
theorem scan_flatMap_terms (k : Connective) (es : List Expr) :
    k.scan registry env (es.flatMap k.terms) = k.scan registry env es := by
  induction es with
  | nil => rfl
  | cons e es ih => rw [List.flatMap_cons, scan_append, scan_terms, ih, scan_cons]

/-! ### Joined expressions -/

/-- **Joined expressions come to what asking for their values from left to right comes to.** -/
theorem eval_join (k : Connective) (es : List Expr) :
    (k.join es).elim (.ok k.neutral) (Expr.eval registry env) = k.scan registry env es := by
  rw [← scan_flatMap_terms, join]
  rcases es.flatMap k.terms with _ | ⟨e, _ | ⟨e', rest⟩⟩
  · exact (scan_nil k).symm
  · exact (scan_singleton k e).symm
  · exact eval_build k (e :: e' :: rest)

theorem terms_eq_nil_iff : k.terms e = [] ↔ e = k.build [] := by
  constructor
  · intro hnil
    rcases k.terms_cases e with halone | hbuild
    · rw [halone] at hnil
      cases hnil
    · rwa [hnil] at hbuild
  · rintro rfl
    exact k.terms_build []

/-- Nothing is joined just when there are no terms. -/
theorem join_eq_none_iff : k.join es = none ↔ ∀ e ∈ es, e = k.build [] := by
  have hconnect : Expr.connect k.build (es.flatMap k.terms) = none ↔ es.flatMap k.terms = [] := by
    rcases es.flatMap k.terms with _ | ⟨e, _ | ⟨e', rest⟩⟩
    · exact iff_of_true rfl rfl
    · exact iff_of_false (Option.some_ne_none _) (List.cons_ne_nil _ _)
    · exact iff_of_false (Option.some_ne_none _) (List.cons_ne_nil _ _)
  rw [join, hconnect, List.flatMap_eq_nil_iff]
  exact forall₂_congr fun _ _ => terms_eq_nil_iff

end Connective

end Parley.Guard

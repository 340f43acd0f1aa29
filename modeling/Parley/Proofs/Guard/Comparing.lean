import Mathlib.Data.String.Basic
import Parley.Guard.Eval
import Parley.Proofs.Number.Rounding

/-!
# Comparing two values

An order exists between two numbers, where texts that write a number count as numbers, and between
two texts.  The four comparisons that ask for an order follow from it.  Equality counts a text as a
number only beside a number; so two texts that write the same number in different ways are in order
neither before nor after one another, and yet not equal.

* `Guard.Holds`, `Guard.Agree`: what the six comparisons say, and how they fit together;
* `Guard.agree_iff_equal`: the order decides, if equality follows it;
* `Guard.WriteSameNumber`, `Guard.equal_of_order`: when equality does not;
* `Guard.comparisons_agree_iff`;
* `Samples.spellings_disagree`: two texts about which the comparisons do not agree.
-/

namespace Parley

namespace Guard

variable {l r : Json} {o : Ordering}

/-- A comparison of two values holds. -/
def Holds (l : Json) (op : Comparison) (r : Json) : Prop := compare l op r = .ok true

/-- All six comparisons of two values have an answer.  One of less, equal and greater holds, and the
other three say what follows from that. -/
structure Agree (l r : Json) : Prop where
  answers (op : Comparison) : ∃ b, compare l op r = .ok b
  one : (Holds l .lt r ∧ ¬ Holds l .eq r ∧ ¬ Holds l .gt r) ∨
      (¬ Holds l .lt r ∧ Holds l .eq r ∧ ¬ Holds l .gt r) ∨
    (¬ Holds l .lt r ∧ ¬ Holds l .eq r ∧ Holds l .gt r)
  le : Holds l .le r ↔ Holds l .lt r ∨ Holds l .eq r
  ge : Holds l .ge r ↔ Holds l .gt r ∨ Holds l .eq r
  ne : Holds l .ne r ↔ ¬ Holds l .eq r

/-- Two different texts write the same number. -/
def WriteSameNumber (l r : Json) : Prop :=
  ∃ s t x y, l = .string s ∧ r = .string t ∧ s ≠ t ∧ numberOfText? s = some x ∧
    numberOfText? t = some y ∧
    x.eq y = true

/-! ### What follows from the order -/

/-- If an order is asked for and there is one, it decides. -/
theorem compare_of_order (h : order? l r = some o) {op : Comparison} (hop : op.isOrdering = true) :
    compare l op r = .ok (op.admits o) := by
  cases op with
  | eq | ne => cases hop
  | lt | le | gt | ge => simp only [compare, h]

/-- Without an order, no comparison that asks for one has an answer. -/
theorem exists_order (h : ∃ b, compare l .lt r = .ok b) : ∃ o, order? l r = some o := by
  obtain ⟨b, hb⟩ := h
  cases horder : order? l r with
  | some o => exact ⟨o, rfl⟩
  | none => simp only [compare, horder, reduceCtorEq] at hb

theorem holds_iff_admits (h : order? l r = some o) {op : Comparison} (hop : op.isOrdering = true) :
    Holds l op r ↔ op.admits o = true := by
  rw [Holds, compare_of_order h hop, Except.ok.injEq]

/-- The comparisons agree if equality says the same as the order. -/
theorem agree_iff_equal (h : order? l r = some o) : Agree l r ↔ equal l r = (o == .eq) := by
  have hlt : Holds l .lt r ↔ Comparison.lt.admits o = true := holds_iff_admits h rfl
  have hgt : Holds l .gt r ↔ Comparison.gt.admits o = true := holds_iff_admits h rfl
  have hle : Holds l .le r ↔ Comparison.le.admits o = true := holds_iff_admits h rfl
  have hge : Holds l .ge r ↔ Comparison.ge.admits o = true := holds_iff_admits h rfl
  have heq : Holds l .eq r ↔ equal l r = true := by
    rw [Holds, compare, Except.ok.injEq]
  have hne : Holds l .ne r ↔ equal l r = false := by
    rw [Holds, compare, Except.ok.injEq, Bool.not_eq_true']
  constructor
  · intro hagree
    have hone := hagree.one
    rw [hlt, hgt, heq] at hone
    cases o <;> simpa [Comparison.admits] using hone
  · intro hequal
    refine ⟨fun op => ?_, ?_, ?_, ?_, ?_⟩
    · cases op with
      | eq | ne => exact ⟨_, rfl⟩
      | lt | le | gt | ge => exact ⟨_, compare_of_order h rfl⟩
    · rw [hlt, hgt, heq, hequal]
      cases o <;> simp [Comparison.admits]
    · rw [hle, hlt, heq, hequal]
      cases o <;> simp [Comparison.admits]
    · rw [hge, hgt, heq, hequal]
      cases o <;> simp [Comparison.admits]
    · rw [hne, heq, Bool.not_eq_true]

/-! ### When equality follows the order -/

theorem eq_of_orderNumbers {x y : Binary64} (h : orderNumbers? x y = some o) :
    x.eq y = (o == .eq) := by
  unfold orderNumbers? at h
  unfold Binary64.lt at h
  unfold Binary64.eq at h ⊢
  cases hx : x.rank with
  | none => simp [hx] at h
  | some a =>
    cases hy : y.rank with
    | none => simp [hx, hy] at h
    | some b =>
      simp only [hx, hy, decide_eq_true_eq] at h ⊢
      split_ifs at h with hlt hgt heq <;> cases h
      · simpa using hlt.ne
      · simpa using hgt.ne'
      · simpa using heq

theorem eq_of_orderTexts (s t : String) : (s == t) = (orderTexts s t == .eq) := by
  unfold orderTexts
  rcases lt_trichotomy s t with hlt | rfl | hgt
  · simp [hlt, hlt.ne]
  · simp
  · simp [hgt, hgt.ne', hgt.not_gt]

/-- An order is that of two numbers, or of two texts of which one writes no number. -/
theorem order_cases (h : order? l r = some o) :
    (∃ x y, number? l = some x ∧ number? r = some y ∧ orderNumbers? x y = some o) ∨
      ∃ s t, l = .string s ∧ r = .string t ∧ (numberOfText? s = none ∨ numberOfText? t = none) ∧
        orderTexts s t = o := by
  unfold order? at h
  split at h
  · rename_i x y hx hy
    exact .inl ⟨x, y, hx, hy, h⟩
  · rename_i hnumbers
    split at h
    · rename_i s t
      refine .inr ⟨s, t, rfl, rfl, ?_, Option.some.inj h⟩
      by_contra hboth
      obtain ⟨hs, ht⟩ := not_or.1 hboth
      obtain ⟨x, hx⟩ := Option.ne_none_iff_exists'.1 hs
      obtain ⟨y, hy⟩ := Option.ne_none_iff_exists'.1 ht
      exact hnumbers x y hx hy
    · cases h

/-- What counts as a number and is none is a text that writes it. -/
theorem exists_text_of_number {x : Binary64} (h : number? l = some x) (hl : isNumber l = false) :
    ∃ s, l = .string s ∧ numberOfText? s = some x := by
  cases l with
  | string s => exact ⟨s, rfl, h⟩
  | number n => cases hl
  | null | bool _ | array _ | object _ => cases h

/-- **Equality says the same as the order, unless two different texts write the same number.** -/
theorem equal_eq_iff (h : order? l r = some o) :
    equal l r = (o == .eq) ↔ ¬ WriteSameNumber l r := by
  rcases order_cases h with ⟨x, y, hx, hy, horder⟩ | ⟨s, t, rfl, rfl, hnone, horder⟩
  · have horder := eq_of_orderNumbers horder
    cases hkind : isNumber l || isNumber r with
    | true =>
      refine iff_of_true ?_ ?_
      · simpa only [equal, hkind, if_true, hx, hy] using horder
      · rintro ⟨s, t, -, -, rfl, rfl, -⟩
        cases hkind
    | false =>
      obtain ⟨hl, hr⟩ := Bool.or_eq_false_iff.1 hkind
      obtain ⟨s, rfl, hs⟩ := exists_text_of_number hx hl
      obtain ⟨t, rfl, ht⟩ := exists_text_of_number hy hr
      have hwrite : WriteSameNumber (.string s) (.string t) ↔ s ≠ t ∧ x.eq y = true := by
        refine ⟨?_, fun ⟨hne, heq⟩ => ⟨s, t, x, y, rfl, rfl, hne, hs, ht, heq⟩⟩
        rintro ⟨_, _, x', y', ⟨rfl⟩, ⟨rfl⟩, hne, hs', ht', heq⟩
        rw [hs] at hs'
        rw [ht] at ht'
        cases hs'
        cases ht'
        exact ⟨hne, heq⟩
      rw [hwrite, ← horder, show equal (.string s) (.string t) = (s == t) from rfl]
      by_cases hst : s = t
      · subst hst
        have hself : x.eq y = true := by
          rw [hs] at ht
          cases ht
          exact Binary64.eq_self (Option.filter_eq_some_iff.1 hs).2
        simp [hself]
      · rw [beq_eq_false_iff_ne.2 hst, eq_comm, and_iff_right hst, Bool.not_eq_true]
  · refine iff_of_true ?_ ?_
    · subst horder
      exact eq_of_orderTexts s t
    · rintro ⟨s', t', x, y, ⟨rfl⟩, ⟨rfl⟩, -, hs, ht, -⟩
      rw [hs, ht] at hnone
      simp at hnone

/-- **The comparisons of two values that have an order agree, unless the values are different texts
that write the same number.** -/
theorem comparisons_agree_iff (h : ∃ b, compare l .lt r = .ok b) :
    Agree l r ↔ ¬ WriteSameNumber l r := by
  obtain ⟨o, ho⟩ := exists_order h
  rw [agree_iff_equal ho, equal_eq_iff ho]

end Guard

/-! ### Texts that write numbers -/

namespace Samples

open Guard

/-- A text that writes a number agrees with every number. -/
theorem ten_agrees :
    (∃ b, compare (.string " 10.0 ") .lt (.int 10) = .ok b) ∧
    Agree (.string " 10.0 ") (.int 10) := by
  have hanswer : ∃ b, compare (.string " 10.0 ") .lt (.int 10) = .ok b := ⟨false, by decide +kernel⟩
  refine ⟨hanswer, (comparisons_agree_iff hanswer).2 ?_⟩
  rintro ⟨s, t, -, -, -, ht, -⟩
  cases ht

/-- Of the texts `5` and `5.0` neither is less than the other, so each is at most the other; and
they are not equal. -/
theorem spellings_disagree :
    compare (.string "5") .lt (.string "5.0") = .ok false ∧
      compare (.string "5") .gt (.string "5.0") = .ok false ∧
      compare (.string "5") .le (.string "5.0") = .ok true ∧
      compare (.string "5") .ge (.string "5.0") = .ok true ∧
      compare (.string "5") .eq (.string "5.0") = .ok false ∧
      ¬ Agree (.string "5") (.string "5.0") := by
  have hlt : compare (.string "5") .lt (.string "5.0") = .ok false := by decide +kernel
  have hgt : compare (.string "5") .gt (.string "5.0") = .ok false := by decide +kernel
  have heq : compare (.string "5") .eq (.string "5.0") = .ok false := by decide +kernel
  refine ⟨hlt, hgt, by decide +kernel, by decide +kernel, heq, fun hagree => ?_⟩
  simpa [Holds, hlt, hgt, heq] using hagree.one

end Samples

end Parley

import Parley.Proofs.Number.Shortest

/-!
# Whole numbers as doubles

A whole number with at most 53 significant bits is a double.  The double nearest to any other whole
number is another whole number.  Rounding keeps the order, so a double bounds a whole number from
the same side as it bounds the nearest double, unless it is the nearest double itself.

Counting by ones is exact up to `2^53`.  Nothing is counted from what is no number: a NaN goes
through sums and products, no comparison holds of it, and infinity taken zero times is one.

* `FitsSignificand`, `wholeUnits_eq_iff`: the whole numbers that are doubles;
* `one_dvd_wholeUnits`: what is nearest to a whole number is whole;
* `exact`, `lt_iff_exact`: the number that a double stands for;
* `exact_ofInt_eq_iff`, `exact_le_ofInt_iff`, `ofInt_le_exact_iff`: integers and the doubles nearest
  to them;
* `value_ofNat`, `ofNat_add_one`: counting;
* `lt_iff_not_le`, `le_iff_not_lt`: when the two ways to test a bound differ;
* `value_mul_zero`, `isNaN_mul_zero`, `add_zero_of_value`: what a number taken zero times adds.
-/

namespace Parley.Binary64

variable {x y : Binary64} {neg : Bool} {u n m b : ℕ} {i : ℤ}

/-! ### Significant bits -/

/-- A whole number with at most 53 significant bits. -/
def FitsSignificand (n : ℕ) : Prop := ∃ m k, m < 2 ^ 53 ∧ n = m * 2 ^ k

theorem fitsSignificand_of_lt (h : n < 2 ^ 53) : FitsSignificand n :=
  ⟨n, 0, h, by rw [Nat.pow_zero, Nat.mul_one]⟩

theorem fitsSignificand_two_pow (k : ℕ) : FitsSignificand (2 ^ k) :=
  ⟨1, k, by decide, by rw [Nat.one_mul]⟩

theorem exists_significand (b : ℕ) : ∃ m k, m < 2 ^ 53 ∧ unitsOfBits b = m * 2 ^ k := by
  rcases Nat.lt_or_ge b (2 ^ 52) with hlt | hle
  · exact ⟨b, 0, by omega, by rw [unitsOfBits_of_lt hlt, Nat.pow_zero, Nat.mul_one]⟩
  · exact ⟨2 ^ 52 + b % 2 ^ 52, b / 2 ^ 52 - 1, by omega, unitsOfBits_of_le hle⟩

/-! ### The double nearest to a whole number -/

/-- The units of the double nearest to a whole number. -/
def wholeUnits (n : ℕ) : ℕ := unitsOfBits (roundBits (n * one) 1)

/-- The units of a double bound those of a whole number as they bound those of the nearest
double. -/
theorem unitsOfBits_le_wholeUnits (hb : b ≤ infinityBits) (h : unitsOfBits b ≤ n * one) :
    unitsOfBits b ≤ wholeUnits n := by
  refine unitsOfBits_strictMono.monotone ?_
  rw [← roundBits_unitsOfBits hb]
  exact roundBits_mono Nat.one_pos h

theorem wholeUnits_le_unitsOfBits (hb : b ≤ infinityBits) (h : n * one ≤ unitsOfBits b) :
    wholeUnits n ≤ unitsOfBits b := by
  refine unitsOfBits_strictMono.monotone ?_
  rw [← roundBits_unitsOfBits hb]
  exact roundBits_mono Nat.one_pos h

theorem wholeUnits_of_unitsOfBits (hb : b ≤ infinityBits) (h : unitsOfBits b = n * one) :
    wholeUnits n = n * one := by
  rw [wholeUnits, ← h, roundBits_unitsOfBits hb]

theorem mul_one_lt_infinity (h : n ≤ 2 ^ 64) : n * one < unitsOfBits infinityBits :=
  (Nat.mul_le_mul_right one h).trans_lt one_lt_infinity

/-- **The whole numbers that are doubles are those with at most 53 significant bits.** -/
theorem wholeUnits_eq_iff (h : n ≤ 2 ^ 64) : wholeUnits n = n * one ↔ FitsSignificand n := by
  have hmax := mul_one_lt_infinity h
  constructor
  · intro hunits
    obtain ⟨m, k, hm, hmk⟩ := exists_significand (roundBits (n * one) 1)
    rw [← wholeUnits, hunits, one_eq rfl] at hmk
    generalize scale = j at hmk
    rcases Nat.le_total j k with hle | hle
    · refine ⟨m, k - j, hm, Nat.eq_of_mul_eq_mul_right (Nat.two_pow_pos j) ?_⟩
      rw [hmk, Nat.mul_assoc, ← Nat.pow_add, Nat.sub_add_cancel hle]
    · refine ⟨n, 0, ?_, by rw [Nat.pow_zero, Nat.mul_one]⟩
      have hm' : n * 2 ^ (j - k) = m := by
        refine Nat.eq_of_mul_eq_mul_right (Nat.two_pow_pos k) ?_
        rw [← hmk, Nat.mul_assoc, ← Nat.pow_add, Nat.sub_add_cancel hle]
      exact (Nat.le_mul_of_pos_right n (Nat.two_pow_pos _)).trans_lt (hm' ▸ hm)
  · rintro ⟨m, k, hm, rfl⟩
    obtain ⟨b, hb⟩ := exists_unitsOfBits hm (k + scale)
    rw [Nat.pow_add, ← Nat.mul_assoc, ← one_eq rfl] at hb
    rw [← hb] at hmax
    exact wholeUnits_of_unitsOfBits (unitsOfBits_strictMono.lt_iff_lt.1 hmax).le hb

/-- **What is nearest to a whole number is whole.** -/
theorem one_dvd_wholeUnits (h : n ≤ 2 ^ 64) : one ∣ wholeUnits n := by
  rcases Nat.lt_or_ge n (2 ^ 53) with hlt | hle
  · rw [(wholeUnits_eq_iff h).2 (fitsSignificand_of_lt hlt)]
    exact Nat.dvd_mul_left one n
  · refine one_dvd_unitsOfBits ?_
    have hself : wholeUnits (2 ^ 53) = 2 ^ 53 * one :=
      (wholeUnits_eq_iff (by decide)).2 (fitsSignificand_two_pow 53)
    rw [← hself]
    exact unitsOfBits_strictMono.monotone
      (roundBits_mono Nat.one_pos (Nat.mul_le_mul_right one hle))

theorem value_ofInt (h : i.natAbs ≤ 2 ^ 64) :
    (ofInt i).value = .finite (decide (i < 0)) (wholeUnits i.natAbs) := by
  have hmax : roundBits (i.natAbs * one) 1 < infinityBits := by
    have hself : wholeUnits (2 ^ 64) = 2 ^ 64 * one :=
      (wholeUnits_eq_iff (Nat.le_refl _)).2 (fitsSignificand_two_pow 64)
    have hbits : roundBits (2 ^ 64 * one) 1 < infinityBits :=
      unitsOfBits_strictMono.lt_iff_lt.1 (hself.trans_lt one_lt_infinity)
    exact (roundBits_mono Nat.one_pos (Nat.mul_le_mul_right one h)).trans_lt hbits
  rw [ofInt, round, value_ofMagnitude _ hmax.le, if_pos hmax]
  rfl

/-! ### The number that a double stands for -/

/-- The number that a finite double stands for. -/
def exact (x : Binary64) : ℚ :=
  match x.value with
  | .finite neg u => (signed neg u : ℚ) / one
  | _ => 0

theorem exact_of_value (h : x.value = .finite neg u) : x.exact = (signed neg u : ℚ) / one := by
  rw [exact, h]

theorem one_pos_rat : (0 : ℚ) < one := Nat.cast_pos.2 one_pos

theorem exists_value (h : x.isFinite = true) : ∃ neg u, x.value = .finite neg u := by
  unfold isFinite at h
  cases hx : x.value <;> simp [hx] at h ⊢

/-- Finite doubles are in the order of the numbers that they stand for. -/
theorem lt_iff_exact (hx : x.isFinite = true) (hy : y.isFinite = true) :
    x.lt y = true ↔ x.exact < y.exact := by
  obtain ⟨s, u, hx⟩ := exists_value hx
  obtain ⟨t, v, hy⟩ := exists_value hy
  rw [exact_of_value hx, exact_of_value hy, div_lt_div_iff_of_pos_right one_pos_rat, Int.cast_lt]
  simp [lt, rank, hx, hy, signed]

theorem isFinite_ofInt (h : i.natAbs ≤ 2 ^ 64) : (ofInt i).isFinite = true := by
  rw [isFinite, value_ofInt h]

theorem exact_ofInt (h : i.natAbs ≤ 2 ^ 64) :
    (ofInt i).exact = (signed (decide (i < 0)) (wholeUnits i.natAbs) : ℚ) / one :=
  exact_of_value (value_ofInt h)

theorem signed_natAbs (i : ℤ) (k : ℕ) : signed (decide (i < 0)) (i.natAbs * k) = i * k := by
  unfold signed
  rcases lt_or_ge i 0 with hneg | hpos
  · rw [decide_eq_true hneg, if_pos rfl, Nat.cast_mul, Int.ofNat_natAbs_of_nonpos hneg.le,
      Int.neg_mul, Int.neg_neg]
  · rw [decide_eq_false (Int.not_lt.2 hpos), if_neg Bool.false_ne_true, Nat.cast_mul,
      Int.natAbs_of_nonneg hpos]

/-- An integer in units. -/
theorem intCast_eq (i : ℤ) : (i : ℚ) = ((i * one : ℤ) : ℚ) / one := by
  rw [Int.cast_mul, Int.cast_natCast, mul_div_cancel_right₀ _ one_pos_rat.ne']

/-- **An integer is the double nearest to it exactly if it has at most 53 significant bits.** -/
theorem exact_ofInt_eq_iff (h : i.natAbs ≤ 2 ^ 64) :
    (ofInt i).exact = i ↔ FitsSignificand i.natAbs := by
  rw [← wholeUnits_eq_iff h, exact_ofInt h, intCast_eq i, div_left_inj' one_pos_rat.ne',
    Int.cast_inj, ← signed_natAbs i one]
  unfold signed
  split_ifs
  · rw [neg_inj, Nat.cast_inj]
  · rw [Nat.cast_inj]

/-- The nearest double is no less than a double below an integer, -/
theorem exact_le_exact_ofInt (hx : x.isFinite = true) (h : i.natAbs ≤ 2 ^ 64) (hle : x.exact ≤ i) :
    x.exact ≤ (ofInt i).exact := by
  obtain ⟨neg, u, hx⟩ := exists_value hx
  obtain ⟨b, hb, -, rfl⟩ := eq_ofMagnitude hx
  rw [exact_of_value hx, exact_ofInt h, div_le_div_iff_of_pos_right one_pos_rat, Int.cast_le]
  rw [exact_of_value hx, intCast_eq i, div_le_div_iff_of_pos_right one_pos_rat, Int.cast_le,
    ← signed_natAbs] at hle
  unfold signed at hle ⊢
  have hup := unitsOfBits_le_wholeUnits (n := i.natAbs) hb.le
  have hdown := wholeUnits_le_unitsOfBits (n := i.natAbs) hb.le
  have hpos : i < 0 → 0 < i.natAbs * one := fun hneg => Nat.mul_pos (by omega) one_pos
  split_ifs at hle ⊢ <;> simp only [decide_eq_true_eq] at * <;> omega

/-- and no more than one above it. -/
theorem exact_ofInt_le_exact (hx : x.isFinite = true) (h : i.natAbs ≤ 2 ^ 64) (hle : i ≤ x.exact) :
    (ofInt i).exact ≤ x.exact := by
  obtain ⟨neg, u, hx⟩ := exists_value hx
  obtain ⟨b, hb, -, rfl⟩ := eq_ofMagnitude hx
  rw [exact_of_value hx, exact_ofInt h, div_le_div_iff_of_pos_right one_pos_rat, Int.cast_le]
  rw [exact_of_value hx, intCast_eq i, div_le_div_iff_of_pos_right one_pos_rat, Int.cast_le,
    ← signed_natAbs] at hle
  unfold signed at hle ⊢
  have hup := unitsOfBits_le_wholeUnits (n := i.natAbs) hb.le
  have hdown := wholeUnits_le_unitsOfBits (n := i.natAbs) hb.le
  have hzero : i.natAbs * one = 0 → wholeUnits i.natAbs = 0 := fun hnone => by
    rw [wholeUnits, hnone]
    rfl
  split_ifs at hle ⊢ <;> simp only [decide_eq_true_eq] at * <;> omega

/-- **A double is below the one nearest to an integer if it is below the integer, or the nearest one
itself.** -/
theorem exact_le_ofInt_iff (hx : x.isFinite = true) (h : i.natAbs ≤ 2 ^ 64) :
    x.exact ≤ (ofInt i).exact ↔ x.exact ≤ i ∨ x.exact = (ofInt i).exact := by
  constructor
  · intro hle
    rcases le_total x.exact i with hbelow | habove
    · exact .inl hbelow
    · exact .inr (hle.antisymm (exact_ofInt_le_exact hx h habove))
  · rintro (hbelow | hself)
    · exact exact_le_exact_ofInt hx h hbelow
    · exact hself.le

theorem ofInt_le_exact_iff (hx : x.isFinite = true) (h : i.natAbs ≤ 2 ^ 64) :
    (ofInt i).exact ≤ x.exact ↔ i ≤ x.exact ∨ x.exact = (ofInt i).exact := by
  constructor
  · intro hle
    rcases le_total x.exact i with hbelow | habove
    · exact .inr ((exact_le_exact_ofInt hx h hbelow).antisymm hle)
    · exact .inl habove
  · rintro (habove | hself)
    · exact exact_ofInt_le_exact hx h habove
    · exact hself.ge

/-! ### Counting -/

theorem ofNat_eq_ofInt (n : ℕ) : ofNat n = ofInt n := by
  rw [ofNat, ofInt, Int.natAbs_natCast, decide_eq_false (Int.not_lt.2 n.cast_nonneg)]

theorem value_ofNat (h : n ≤ 2 ^ 53) : (ofNat n).value = .finite false (n * one) := by
  have hfits : FitsSignificand n := by
    rcases Nat.lt_or_eq_of_le h with hlt | rfl
    · exact fitsSignificand_of_lt hlt
    · exact fitsSignificand_two_pow 53
  have hunits : wholeUnits n = n * one := (wholeUnits_eq_iff (by omega)).2 hfits
  rw [ofNat_eq_ofInt, value_ofInt (by omega), Int.natAbs_natCast, hunits]
  simp

theorem signed_false (u : ℕ) : signed false u = u := rfl

theorem signed_zero (neg : Bool) : signed neg 0 = 0 := by
  cases neg <;> rfl

theorem roundInt_natCast (u : ℕ) : roundInt false u 1 = round false u 1 := by
  rw [roundInt, Int.natAbs_natCast, decide_eq_false (Int.not_lt.2 u.cast_nonneg), ite_self]

/-- **Counting is exact up to `2^53`.** -/
theorem ofNat_add_one (h : n < 2 ^ 53) : ofNat n + ofNat 1 = ofNat (n + 1) := by
  have hsum : (n * one + 1 * one : ℕ) = (n + 1) * one := (Nat.add_mul n 1 one).symm
  change add (ofNat n) (ofNat 1) = _
  rw [add, value_ofNat h.le, value_ofNat (by decide)]
  dsimp only
  rw [Bool.and_false, signed_false, signed_false, ← Nat.cast_add, hsum, roundInt_natCast, ofNat]

/-! ### Comparing -/

theorem rank_eq_none_iff : x.rank = none ↔ x.isNaN = true := by
  unfold rank isNaN
  cases x.value <;> simp only [reduceCtorEq, decide_false, decide_true, Bool.false_eq_true]

theorem exists_rank (h : x.isNaN = false) : ∃ i, x.rank = some i := by
  rw [← Option.ne_none_iff_exists', ne_eq, rank_eq_none_iff, h]
  exact Bool.false_ne_true

theorem le_of_isNaN (h : x.isNaN = true) : x.le y = false := by
  rw [le, rank_eq_none_iff.2 h]

theorem isNaN_of_lt (h : x.lt y = true) : x.isNaN = false := by
  rw [← Bool.not_eq_true, ← rank_eq_none_iff]
  intro hrank
  rw [lt, hrank] at h
  cases h

theorem le_of_lt (h : x.lt y = true) : x.le y = true := by
  unfold lt at h
  unfold le
  cases hx : x.rank with
  | none => simp [hx] at h
  | some i =>
    cases hy : y.rank with
    | none => simp [hx, hy] at h
    | some j =>
      rw [hx, hy] at h
      exact decide_eq_true (of_decide_eq_true h).le

/-- To be above a bound is more than not to be at or below it. -/
theorem lt_iff_not_le (hy : y.isNaN = false) :
    y.lt x = true ↔ x.isNaN = false ∧ x.le y = false := by
  obtain ⟨i, hi⟩ := exists_rank hy
  rw [← Bool.not_eq_true, ← rank_eq_none_iff, lt, le, hi]
  cases x.rank <;> simp

/-- To be at or above a bound is more than not to be below it. -/
theorem le_iff_not_lt (hy : y.isNaN = false) :
    y.le x = true ↔ x.isNaN = false ∧ x.lt y = false := by
  obtain ⟨i, hi⟩ := exists_rank hy
  rw [← Bool.not_eq_true, ← rank_eq_none_iff, lt, le, hi]
  cases x.rank <;> simp

theorem isNaN_ofNat (h : n ≤ 2 ^ 53) : (ofNat n).isNaN = false := by
  simp [isNaN, value_ofNat h]

theorem rank_ofNat (h : n ≤ 2 ^ 53) : (ofNat n).rank = some ((n * one : ℕ) : ℤ) := by
  rw [rank, value_ofNat h]
  rfl

theorem mul_one_lt_pow {top k : ℕ} (htop : top = Nat.pow 2 k) (hk : 53 + scale < k)
    (hn : n ≤ 2 ^ 53) :
    n * one < top := by
  refine (Nat.mul_le_mul_right one hn).trans_lt ?_
  rw [one_eq rfl, ← Nat.pow_add, htop, Nat.pow_eq]
  exact Nat.pow_lt_pow_right Nat.one_lt_two hk

/-- The rank of an infinity is beyond that of the whole numbers. -/
theorem exists_rank_infinite (h : x.value = .infinite neg) (hn : n ≤ 2 ^ 53) :
    ∃ top, n * one < top ∧ x.rank = some (if neg then -(top : ℤ) else top) := by
  obtain ⟨top, htop⟩ : ∃ top, top = Nat.pow 2 2098 := ⟨_, rfl⟩
  refine ⟨top, mul_one_lt_pow htop (by decide) hn, ?_⟩
  rw [htop, rank, h]

/-- What is above zero and below a whole number is finite and has no sign. -/
theorem exists_units (hpos : (ofNat 0).lt x = true) (hn : n ≤ 2 ^ 53)
    (hlt : x.lt (ofNat n) = true) :
    ∃ u, x.value = .finite false u := by
  rw [lt, rank_ofNat (Nat.zero_le _)] at hpos
  rw [lt, rank_ofNat hn] at hlt
  cases hvalue : x.value with
  | nan =>
    rw [rank, hvalue] at hlt
    cases hlt
  | infinite neg =>
    obtain ⟨top, htop, hrank⟩ := exists_rank_infinite hvalue hn
    rw [hrank] at hpos hlt
    dsimp only at hpos hlt
    rw [decide_eq_true_eq] at hpos hlt
    split_ifs at hpos hlt <;> omega
  | finite neg u =>
    cases neg with
    | false => exact ⟨u, rfl⟩
    | true =>
      rw [rank, hvalue] at hpos
      dsimp only at hpos
      rw [decide_eq_true_eq, if_pos rfl] at hpos
      omega

/-! ### Zero -/

theorem roundBits_zero {den : ℕ} (hden : 0 < den) : roundBits 0 den = 0 := by
  have hself : roundBits (unitsOfBits 0) 1 = 0 := roundBits_unitsOfBits (Nat.zero_le _)
  rw [unitsOfBits_of_lt (Nat.two_pow_pos 52)] at hself
  refine (roundBits_congr hden Nat.one_pos ?_).trans hself
  rw [Nat.zero_mul, Nat.zero_mul]

/-- A finite number taken zero times is a zero. -/
theorem value_mul_zero (hx : x.isFinite = true) : ∃ neg, (x * ofNat 0).value = .finite neg 0 := by
  obtain ⟨neg, u, hvalue⟩ := exists_value hx
  refine ⟨neg != false, ?_⟩
  change (mul x (ofNat 0)).value = _
  rw [mul, hvalue, value_ofNat (Nat.zero_le _)]
  simp only [Nat.zero_mul, Nat.mul_zero, round, roundBits_zero one_pos, value_zero]

theorem isNaN_mul_zero (hx : x.isFinite = false) : (x * ofNat 0).isNaN = true := by
  change (mul x (ofNat 0)).isNaN = true
  unfold isFinite at hx
  rw [mul, value_ofNat (Nat.zero_le _), Nat.zero_mul]
  cases hvalue : x.value with
  | finite neg u => simp [hvalue] at hx
  | nan | infinite neg => rfl

/-- A zero adds nothing. -/
theorem add_zero_of_value (hx : x.value = .finite false u) (hy : y.value = .finite neg 0) :
    x + y = x := by
  change add x y = x
  rw [add, hx, hy]
  dsimp only
  rw [Bool.false_and, signed_zero, signed_false, Int.add_zero, roundInt_natCast]
  exact round_of_value hx

theorem isNaN_add (hy : y.isNaN = true) : (x + y).isNaN = true := by
  change (add x y).isNaN = true
  unfold isNaN at hy
  rw [add, of_decide_eq_true hy]
  cases x.value <;> rfl

end Parley.Binary64

import Mathlib.Tactic
import Parley.Number.Binary64

/-!
# Rounding

A quotient of units is rounded to the nearest double.  Doubles are rounded to themselves, and what
is larger is rounded to nothing smaller.

* `divHalfEven_mul`, `divHalfEven_mono`: the nearest whole number;
* `roundBits_mul`, `roundBits_mono`, `roundBits_le_roundBits`: the nearest double, as magnitude
  bits;
* `roundBits_unitsOfBits`, `unitsOfBits_strictMono`: the bits and the units of a double stand for
  each other;
* `exists_unitsOfBits`: what has few significant bits is a double;
* `value_ofMagnitude`, `round_of_value`: signs in front of them.
-/

namespace Parley.Binary64

variable {num num' den den' c n m : Nat}

/-! ### The nearest whole number -/

/-- Only the quotient matters. -/
theorem divHalfEven_mul (hc : 0 < c) : divHalfEven (num * c) (den * c) = divHalfEven num den := by
  have hless : 2 * (num % den * c) < den * c ↔ 2 * (num % den) < den := by
    rw [← Nat.mul_assoc, Nat.mul_lt_mul_right hc]
  have hmore : den * c < 2 * (num % den * c) ↔ den < 2 * (num % den) := by
    rw [← Nat.mul_assoc, Nat.mul_lt_mul_right hc]
  unfold divHalfEven
  simp only [Nat.mul_div_mul_right _ _ hc, Nat.mul_mod_mul_right, hless, hmore]

/-- A whole number is its own nearest one. -/
theorem divHalfEven_mul_self (hden : 0 < den) : divHalfEven (n * den) den = n := by
  unfold divHalfEven
  simp only [Nat.mul_div_cancel _ hden, Nat.mul_mod_left, Nat.mul_zero, hden, if_true]

theorem divHalfEven_bounds (num den : Nat) :
    num / den ≤ divHalfEven num den ∧ divHalfEven num den ≤ num / den + 1 := by
  unfold divHalfEven
  dsimp only
  split_ifs <;> omega

theorem divHalfEven_mono (h : num ≤ num') (den : Nat) :
    divHalfEven num den ≤ divHalfEven num' den := by
  rcases Nat.lt_or_eq_of_le (Nat.div_le_div_right (c := den) h) with hlt | heq
  · exact (divHalfEven_bounds num den).2.trans (Nat.le_trans hlt (divHalfEven_bounds num' den).1)
  · -- in between two whole numbers, the remainders are in order
    have hparts := Nat.div_add_mod num den
    have hparts' := Nat.div_add_mod num' den
    have hrest : num % den ≤ num' % den := by
      rw [← hparts, ← hparts', heq] at h
      omega
    unfold divHalfEven
    dsimp only
    rw [heq]
    split_ifs <;> omega

theorem le_divHalfEven (hden : 0 < den) (h : n * den ≤ num) : n ≤ divHalfEven num den := by
  rw [← divHalfEven_mul_self (n := n) hden]
  exact divHalfEven_mono h den

theorem divHalfEven_le (hden : 0 < den) (h : num ≤ n * den) : divHalfEven num den ≤ n := by
  rw [← divHalfEven_mul_self (n := n) hden]
  exact divHalfEven_mono h den

/-! ### The nearest double -/

/-- The step between doubles near a number of units, as a power of two. -/
def grid (q : Nat) : Nat := q.log2 - 52

theorem grid_mono (h : n ≤ m) : grid n ≤ grid m := by
  refine Nat.sub_le_sub_right ?_ 52
  simp only [Nat.log2_eq_log_two]
  exact Nat.log_mono_right h

theorem lt_of_grid (n : Nat) : n < 2 ^ 53 * 2 ^ grid n := by
  rw [← Nat.pow_add]
  exact Nat.lt_log2_self.trans_le (Nat.pow_le_pow_right Nat.two_pos (by unfold grid; omega))

theorem le_of_grid (h : 0 < grid n) : 2 ^ 52 * 2 ^ grid n ≤ n := by
  have hlog : 52 + grid n = n.log2 := by
    unfold grid at h ⊢
    omega
  have hne : n ≠ 0 := by
    rintro rfl
    cases h
  rw [← Nat.pow_add, hlog]
  exact Nat.log2_self_le hne

/-- The magnitude bits before they are cut off at infinity. -/
def gridBits (num den : Nat) : Nat :=
  grid (num / den) * 2 ^ 52 + divHalfEven num (den * 2 ^ grid (num / den))

theorem roundBits_eq (num den : Nat) : roundBits num den = min (gridBits num den) infinityBits :=
  rfl

theorem gridBits_mul (hc : 0 < c) : gridBits (num * c) (den * c) = gridBits num den := by
  unfold gridBits
  rw [Nat.mul_div_mul_right _ _ hc, Nat.mul_right_comm, divHalfEven_mul hc]

theorem gridBits_mono (hden : 0 < den) (h : num ≤ num') : gridBits num den ≤ gridBits num' den := by
  have hgrid : grid (num / den) ≤ grid (num' / den) := grid_mono (Nat.div_le_div_right h)
  unfold gridBits
  rcases Nat.lt_or_eq_of_le hgrid with hlt | heq
  · -- below the next grid all bits are smaller
    have hbelow : divHalfEven num (den * 2 ^ grid (num / den)) ≤ 2 ^ 53 := by
      refine divHalfEven_le (Nat.mul_pos hden (Nat.two_pow_pos _)) ?_
      have hnum := Nat.lt_mul_of_div_lt (lt_of_grid (num / den)) hden
      rw [Nat.mul_left_comm, Nat.mul_comm den]
      exact hnum.le
    have habove : 2 ^ 52 ≤ divHalfEven num' (den * 2 ^ grid (num' / den)) := by
      refine le_divHalfEven (Nat.mul_pos hden (Nat.two_pow_pos _)) ?_
      have hnum := Nat.mul_le_of_le_div _ _ _ (le_of_grid (Nat.zero_lt_of_lt hlt))
      rwa [Nat.mul_comm den, ← Nat.mul_assoc]
    omega
  · rw [heq]
    exact Nat.add_le_add_left (divHalfEven_mono h _) _

theorem roundBits_mul (hc : 0 < c) : roundBits (num * c) (den * c) = roundBits num den := by
  rw [roundBits_eq, roundBits_eq, gridBits_mul hc]

theorem roundBits_mono (hden : 0 < den) (h : num ≤ num') :
    roundBits num den ≤ roundBits num' den := by
  rw [roundBits_eq, roundBits_eq]
  exact min_le_min_right _ (gridBits_mono hden h)

/-- **What is larger is rounded to nothing smaller.** -/
theorem roundBits_le_roundBits (hden : 0 < den) (hden' : 0 < den') (h : num * den' ≤ num' * den) :
    roundBits num den ≤ roundBits num' den' := by
  calc roundBits num den
      _ = roundBits (num * den') (den * den') := (roundBits_mul hden').symm
      _ ≤ roundBits (num' * den) (den * den') := roundBits_mono (Nat.mul_pos hden hden') h
      _ = roundBits num' den' := by rw [Nat.mul_comm den den', roundBits_mul hden]

theorem roundBits_congr (hden : 0 < den) (hden' : 0 < den') (h : num * den' = num' * den) :
    roundBits num den = roundBits num' den' :=
  (roundBits_le_roundBits hden hden' h.le).antisymm (roundBits_le_roundBits hden' hden h.ge)

theorem roundBits_le_infinityBits (num den : Nat) : roundBits num den ≤ infinityBits :=
  min_le_right _ _

/-! ### Bits and units -/

theorem unitsOfBits_of_lt (h : n < 2 ^ 52) : unitsOfBits n = n := if_pos h

theorem unitsOfBits_of_le (h : 2 ^ 52 ≤ n) :
    unitsOfBits n = (2 ^ 52 + n % 2 ^ 52) * 2 ^ (n / 2 ^ 52 - 1) :=
  if_neg (Nat.not_lt.2 h)

theorem unitsOfBits_pos (hn : 0 < n) : 0 < unitsOfBits n := by
  rcases Nat.lt_or_ge n (2 ^ 52) with hlt | hle
  · rwa [unitsOfBits_of_lt hlt]
  · rw [unitsOfBits_of_le hle]
    positivity

/-- The units of a double lie on the grid of its exponent. -/
theorem gridBits_unitsOfBits (n : Nat) : gridBits (unitsOfBits n) 1 = n := by
  unfold gridBits grid
  rw [Nat.div_one, Nat.one_mul]
  rcases Nat.lt_or_ge n (2 ^ 52) with hlt | hle
  · have hlog : n.log2 < 52 := by
      rcases n.eq_zero_or_pos with rfl | hpos
      · decide
      · exact (Nat.log2_lt hpos.ne').2 hlt
    have hself := divHalfEven_mul_self (n := n) Nat.one_pos
    rw [Nat.mul_one] at hself
    rw [unitsOfBits_of_lt hlt, Nat.sub_eq_zero_of_le hlog.le, Nat.pow_zero, hself, Nat.zero_mul,
      Nat.zero_add]
  · have hrest := Nat.mod_lt n (Nat.two_pow_pos 52)
    have hlog (k : Nat) : ((2 ^ 52 + n % 2 ^ 52) * 2 ^ k).log2 = 52 + k := by
      rw [Nat.log2_eq_iff (by positivity), Nat.add_right_comm, Nat.pow_add, Nat.pow_add]
      exact ⟨Nat.mul_le_mul_right _ (by omega),
        Nat.mul_lt_mul_of_pos_right (by omega) (Nat.two_pow_pos k)⟩
    have hexponent : 0 < n / 2 ^ 52 := Nat.div_pos hle (Nat.two_pow_pos 52)
    rw [unitsOfBits_of_le hle, hlog, Nat.add_sub_cancel_left,
      divHalfEven_mul_self (Nat.two_pow_pos _), ← Nat.add_assoc, ← Nat.succ_mul,
      Nat.succ_eq_add_one, Nat.sub_add_cancel hexponent, Nat.mul_comm, Nat.div_add_mod]

/-- **A double is the one nearest to its own units.** -/
theorem roundBits_unitsOfBits (h : n ≤ infinityBits) : roundBits (unitsOfBits n) 1 = n := by
  rw [roundBits_eq, gridBits_unitsOfBits, min_eq_left h]

theorem unitsOfBits_strictMono : StrictMono unitsOfBits := by
  intro n m hlt
  by_contra hnot
  have hle := gridBits_mono Nat.one_pos (Nat.not_lt.1 hnot)
  rw [gridBits_unitsOfBits, gridBits_unitsOfBits] at hle
  exact absurd hlt (Nat.not_lt.2 hle)

theorem one_eq {k : Nat} (hk : scale = k) : one = 2 ^ k := by
  unfold one
  rw [hk, Nat.pow_eq]

theorem one_pos : 0 < one := by
  rw [one_eq rfl]
  exact Nat.two_pow_pos _

theorem one_lt_infinity : 2 ^ 64 * one < unitsOfBits infinityBits := by
  have hdiv : infinityBits / 2 ^ 52 = 2047 := by decide
  have hmod : 2 ^ 52 + infinityBits % 2 ^ 52 = 2 ^ 52 := by decide
  have hexponent : 64 + scale < 52 + (2047 - 1) := by decide
  rw [unitsOfBits_of_le (by decide), hdiv, hmod, one_eq rfl, ← Nat.pow_add, ← Nat.pow_add]
  generalize 64 + scale = j, 52 + (2047 - 1) = k at hexponent ⊢
  exact Nat.pow_lt_pow_right Nat.one_lt_two hexponent

/-- What has at most 53 significant bits is a double. -/
theorem exists_unitsOfBits (h : m < 2 ^ 53) (k : Nat) : ∃ b, unitsOfBits b = m * 2 ^ k := by
  induction k generalizing m with
  | zero =>
    refine ⟨m, ?_⟩
    rcases Nat.lt_or_ge m (2 ^ 52) with hlt | hle
    · rw [unitsOfBits_of_lt hlt, Nat.pow_zero, Nat.mul_one]
    · have hdiv : m / 2 ^ 52 = 1 := by omega
      have hmod : 2 ^ 52 + m % 2 ^ 52 = m := by omega
      rw [unitsOfBits_of_le hle, hdiv, hmod]
  | succ k ih =>
    rcases Nat.lt_or_ge m (2 ^ 52) with hlt | hle
    · obtain ⟨b, hb⟩ := ih (m := m * 2) (by omega)
      exact ⟨b, by rw [hb, Nat.pow_succ', Nat.mul_assoc]⟩
    · -- the exponent field counts the doublings
      refine ⟨(k + 2) * 2 ^ 52 + (m - 2 ^ 52), ?_⟩
      have hdiv : ((k + 2) * 2 ^ 52 + (m - 2 ^ 52)) / 2 ^ 52 = k + 2 := by omega
      have hmod : 2 ^ 52 + ((k + 2) * 2 ^ 52 + (m - 2 ^ 52)) % 2 ^ 52 = m := by omega
      rw [unitsOfBits_of_le (by omega), hdiv, hmod, Nat.add_sub_assoc (by decide)]

/-- A whole number other than zero has more than 53 significant bits in units, so its exponent field
is not zero. -/
theorem roundBits_pos (hn : 0 < n) : 0 < roundBits (n * one) 1 := by
  have hscale : scale = 1074 := rfl
  have hlog (k : Nat) (hk : scale = k) : k ≤ (n * one).log2 := by
    rw [one_eq hk, Nat.le_log2 (Nat.mul_pos hn (Nat.pow_pos Nat.two_pos)).ne']
    exact Nat.le_mul_of_pos_left _ hn
  have hlog := hlog scale rfl
  unfold roundBits
  rw [Nat.div_one]
  exact Nat.lt_min.2 ⟨Nat.add_pos_left (Nat.mul_pos (by omega) (Nat.pow_pos Nat.two_pos)) _, by
    decide⟩

/-! ### Signs -/

theorem value_ofMagnitude (neg : Bool) (hn : n ≤ infinityBits) :
    (ofMagnitude neg n).value =
      if n < infinityBits then .finite neg (unitsOfBits n) else .infinite neg := by
  have hmax : infinityBits < 2 ^ 63 := by decide
  have hsize : UInt64.size = 2 ^ 64 := rfl
  have hbits : (ofMagnitude neg n).bits.toNat = if neg then 2 ^ 63 + n else n := by
    refine UInt64.toNat_ofNat_of_lt' ?_
    show (if neg then 2 ^ 63 + n else n) < UInt64.size
    split <;> omega
  have hmod : (if neg then 2 ^ 63 + n else n) % 2 ^ 63 = n := by
    split <;> omega
  have hneg : decide (2 ^ 63 ≤ if neg then 2 ^ 63 + n else n) = neg := by
    cases neg
    · exact decide_eq_false (Nat.not_le.2 (hn.trans_lt hmax))
    · exact decide_eq_true (Nat.le_add_right _ _)
  have htop : n < infinityBits ∨ n = infinityBits := Nat.lt_or_eq_of_le hn
  unfold value
  simp only [hbits, Nat.pow_eq, hmod, hneg]
  split
  · rfl
  · rename_i hlt
    rw [if_pos (htop.resolve_left hlt)]

theorem value_zero (neg : Bool) : (ofMagnitude neg 0).value = .finite neg 0 := by
  rw [value_ofMagnitude neg (Nat.zero_le _), if_pos (by decide),
    unitsOfBits_of_lt (Nat.two_pow_pos 52)]

/-- A finite double is a sign before magnitude bits. -/
theorem eq_ofMagnitude {x : Binary64} {neg : Bool} {u : Nat} (h : x.value = .finite neg u) :
    ∃ n < infinityBits, x = ofMagnitude neg n ∧ u = unitsOfBits n := by
  have hbits : x.bits.toNat < 2 ^ 64 := x.bits.toNat_lt
  unfold value at h
  dsimp only at h
  rw [Nat.pow_eq] at h
  split_ifs at h with hlt
  simp only [Value.finite.injEq] at h
  refine ⟨_, hlt, ?_, h.2.symm⟩
  have hparts : (if neg then 2 ^ 63 + x.bits.toNat % 2 ^ 63 else x.bits.toNat % 2 ^ 63) =
      x.bits.toNat := by
    rw [← h.1]
    split <;> simp at * <;> omega
  unfold ofMagnitude
  rw [Nat.pow_eq, hparts, UInt64.ofNat_toNat]

/-- **A finite double is the one nearest to itself.** -/
theorem round_of_value {x : Binary64} {neg : Bool} {u : Nat} (h : x.value = .finite neg u) :
    round neg u 1 = x := by
  obtain ⟨n, hn, rfl, rfl⟩ := eq_ofMagnitude h
  rw [round, roundBits_unitsOfBits hn.le]

/-- Finite doubles are equal to themselves. -/
theorem eq_self {x : Binary64} (h : x.isFinite = true) : x.eq x = true := by
  unfold isFinite at h
  unfold eq rank
  cases hx : x.value <;> simp [hx] at h ⊢

end Parley.Binary64

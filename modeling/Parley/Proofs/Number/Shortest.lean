import Mathlib.Data.List.TakeWhile
import Parley.Number.Decimal
import Parley.Proofs.Number.Rounding

/-!
# Shortest decimals

The decimal that is written for a double reads back as the double.  Written without an exponent, it
does so too, with a point in it and zeros put in.

* `Decimal.ofDigits_eq`, `Decimal.length_digitChars_mul_pow`: digits;
* `Binary64.ofDecimal_shift`: decimals of the same value;
* `Binary64.ofDecimal_shortest`: the shortest decimal of a double;
* `Decimal.lead`, `Decimal.text_parts`: texts without an exponent;
* `Binary64.powerUnits_le`, `Binary64.le_powerUnits`: doubles between powers of ten;
* `Binary64.isPositional_iff`: which doubles are written without an exponent.
-/

namespace Parley

/-! ### Digits -/

namespace Decimal

variable {n k : Nat} {ds : List Char}

theorem ofDigits_eq (h : ∀ c ∈ ds, c.isDigit = true) : ofDigits ds = Nat.ofDigitChars 10 ds 0 := by
  unfold ofDigits Nat.ofDigitChars
  refine List.foldl_ext _ _ _ fun n c hc => ?_
  rw [digitValue, if_pos (h c hc)]

theorem ofDigits_digitChars (n : Nat) : ofDigits (digitChars n) = n := by
  unfold digitChars
  rw [ofDigits_eq fun c hc => Nat.isDigit_of_mem_toDigits (by decide) (by decide) hc]
  exact Nat.ofDigitChars_ten_toDigits

theorem isDigit_of_mem_zeros : ∀ c ∈ List.replicate k '0', c.isDigit = true := fun c hc => by
  rw [List.eq_of_mem_replicate hc]
  rfl

theorem ofDigits_zeros_append (h : ∀ c ∈ ds, c.isDigit = true) :
    ofDigits (List.replicate k '0' ++ ds) = ofDigits ds := by
  rw [ofDigits_eq (List.forall_mem_append.2 ⟨isDigit_of_mem_zeros, h⟩), ofDigits_eq h,
    Nat.ofDigitChars_append, Nat.ofDigitChars_replicate_zero, Nat.mul_zero]

theorem ofDigits_append_zeros (h : ∀ c ∈ ds, c.isDigit = true) :
    ofDigits (ds ++ List.replicate k '0') = ofDigits ds * 10 ^ k := by
  rw [ofDigits_eq (List.forall_mem_append.2 ⟨h, isDigit_of_mem_zeros⟩), ofDigits_eq h,
    Nat.ofDigitChars_append, Nat.ofDigitChars_replicate_zero, Nat.mul_comm]

theorem length_digitChars_le_iff (hk : 0 < k) : (digitChars n).length ≤ k ↔ n < 10 ^ k :=
  Nat.length_toDigits_le_iff (by decide) hk

theorem length_digitChars_pos (n : Nat) : 0 < (digitChars n).length := Nat.length_toDigits_pos

theorem lt_pow_length (n : Nat) : n < 10 ^ (digitChars n).length :=
  (length_digitChars_le_iff (length_digitChars_pos n)).1 (Nat.le_refl _)

theorem pow_length_le (hn : 0 < n) : 10 ^ ((digitChars n).length - 1) ≤ n := by
  rcases Nat.eq_zero_or_pos ((digitChars n).length - 1) with hone | hmore
  · rwa [hone]
  · by_contra hlt
    have := (length_digitChars_le_iff hmore).2 (Nat.not_le.1 hlt)
    omega

/-- Zeros at the end are digits more. -/
theorem length_digitChars_mul_pow (hn : 0 < n) (k : Nat) :
    (digitChars (n * 10 ^ k)).length = (digitChars n).length + k := by
  have hpow : 0 < 10 ^ k := Nat.pow_pos (by decide)
  have hlower := pow_length_le hn
  have hupper := lt_pow_length n
  have hlength := length_digitChars_pos n
  refine Nat.le_antisymm ?_ ?_
  · rw [length_digitChars_le_iff (by omega), Nat.pow_add]
    exact Nat.mul_lt_mul_of_pos_right hupper hpow
  · by_contra hlt
    have hless : (digitChars (n * 10 ^ k)).length ≤ (digitChars n).length - 1 + k := by omega
    have hshort := (lt_pow_length (n * 10 ^ k)).trans_le (Nat.pow_le_pow_right (by decide) hless)
    rw [Nat.pow_add] at hshort
    exact absurd (Nat.mul_le_mul_right _ hlower) (Nat.not_le.2 hshort)

theorem stripZeros_spec (n : Nat) : (stripZeros n).1 * 10 ^ (stripZeros n).2 = n := by
  fun_induction stripZeros n with
  | case1 n h r ih =>
    have hten : n / 10 * 10 = n := Nat.div_mul_cancel (Nat.dvd_of_mod_eq_zero h.2)
    rw [Nat.pow_succ, ← Nat.mul_assoc, ih, hten]
  | case2 => rw [Nat.pow_zero, Nat.mul_one]

end Decimal

namespace Binary64

open Decimal

/-! ### Decimals of the same value -/

/-- The double of a decimal that is neither too large nor too small is the nearest one. -/
theorem ofDecimal_eq_round {d : Decimal} (hdigits : d.digits ≠ 0)
    (hlow : -330 ≤ (digitChars d.digits).length + d.exponent)
    (hhigh : (digitChars d.digits).length + d.exponent ≤ 310) :
    ofDecimal d =
      round d.neg (d.digits * 10 ^ d.exponent.toNat * one) (10 ^ (-d.exponent).toNat) := by
  unfold ofDecimal
  dsimp only
  rw [if_neg (by omega), if_neg (by omega)]
  split_ifs with hexponent
  · rw [Int.toNat_of_nonpos (Int.neg_nonpos_of_nonneg hexponent), Nat.pow_zero, Nat.pow_eq]
  · rw [Int.toNat_of_nonpos (Int.not_le.1 hexponent).le, Nat.pow_zero, Nat.mul_one, Nat.pow_eq]

/-- **Zeros at the end of the digits are an exponent.** -/
theorem ofDecimal_shift (neg : Bool) (n : Nat) (e : Int) (k : Nat) :
    ofDecimal ⟨neg, n * 10 ^ k, e⟩ = ofDecimal ⟨neg, n, e + k⟩ := by
  rcases Nat.eq_zero_or_pos n with rfl | hn
  · rw [Nat.zero_mul]
    simp only [ofDecimal, true_or, if_true]
  have hpow : 0 < 10 ^ k := Nat.pow_pos (by decide)
  have hne : n * 10 ^ k ≠ 0 := (Nat.mul_pos hn hpow).ne'
  have hlength := length_digitChars_mul_pow hn k
  by_cases hrange : -330 ≤ ((digitChars n).length : Int) + (e + k) ∧
      ((digitChars n).length : Int) + (e + k) ≤ 310
  · rw [ofDecimal_eq_round hne (by dsimp only; omega) (by dsimp only; omega),
      ofDecimal_eq_round (d := ⟨neg, n, e + k⟩) hn.ne' hrange.1 hrange.2]
    dsimp only
    -- both sides have as many factors of ten
    have hexponents : k + e.toNat + (-(e + k)).toNat = (e + k).toNat + (-e).toNat := by omega
    have hcross (w : Nat) : n * 10 ^ k * 10 ^ e.toNat * w * 10 ^ (-(e + k)).toNat =
        n * 10 ^ (e + k).toNat * w * 10 ^ (-e).toNat :=
      calc n * 10 ^ k * 10 ^ e.toNat * w * 10 ^ (-(e + k)).toNat
          = n * w * 10 ^ (k + e.toNat + (-(e + k)).toNat) := by
            rw [Nat.pow_add, Nat.pow_add]; ac_rfl
        _ = n * w * 10 ^ ((e + k).toNat + (-e).toNat) := by rw [hexponents]
        _ = n * 10 ^ (e + k).toNat * w * 10 ^ (-e).toNat := by rw [Nat.pow_add]; ac_rfl
    exact congrArg (ofMagnitude neg)
      (roundBits_congr (Nat.pow_pos (by decide)) (Nat.pow_pos (by decide)) (hcross one))
  · unfold ofDecimal
    simp only [hlength, hne, hn.ne', false_or]
    have htop : (((digitChars n).length + k : Nat) : Int) + e = (digitChars n).length +
        (e + k) := by omega
    simp only [htop]
    split_ifs <;> first | omega | rfl

theorem ofDecimal_normal (d : Decimal) : ofDecimal d.normal = ofDecimal d := by
  obtain ⟨neg, n, e⟩ := d
  show ofDecimal ⟨neg, (stripZeros n).1, e + (stripZeros n).2⟩ = _
  rw [← ofDecimal_shift, stripZeros_spec]

/-- A whole number is its own decimal. -/
theorem ofDecimal_whole (neg : Bool) {n : Nat} (hn : 0 < n) (hmax : n < 2 ^ 63) :
    ofDecimal ⟨neg, n, 0⟩ = round neg (n * one) 1 := by
  have hlength : (digitChars n).length ≤ 19 :=
    (length_digitChars_le_iff (by decide)).2 (hmax.trans_le (by decide))
  rw [ofDecimal_eq_round hn.ne' (by dsimp only; omega) (by dsimp only; omega)]
  dsimp only
  rw [Int.toNat_zero, Int.neg_zero, Int.toNat_zero, Nat.pow_zero, Nat.mul_one]

/-! ### The shortest decimal -/

variable {x : Binary64} {neg : Bool} {u n : Nat} {d : Decimal}

theorem withDigits?_eq_some (h : withDigits? x neg u n = some d) :
    ofDecimal d = x ∧ d.neg = neg := by
  unfold withDigits? at h
  have hreads := List.find?_some h
  obtain ⟨q, -, rfl⟩ := List.mem_map.1 (List.mem_of_find?_eq_some h)
  exact ⟨of_decide_eq_true hreads, rfl⟩

/-- The exact value of a double reads back. -/
theorem ofDecimal_exact (h : x.value = .finite neg u) (hu : u ≠ 0) {k : Nat} (hk : scale = k) :
    ofDecimal ⟨neg, u * 5 ^ k, -(k : Int)⟩ = x := by
  obtain ⟨n, hn, -, hunits⟩ := eq_ofMagnitude h
  have hupper : u * 5 ^ k < 10 ^ (k + 310) := by
    have hlarge := unitsOfBits_strictMono hn
    rw [← hunits] at hlarge
    refine (Nat.mul_lt_mul_of_pos_right hlarge (Nat.pow_pos (by decide))).trans_le ?_
    rw [← hk]
    decide +kernel
  have hlower : 10 ^ (k - 330) ≤ u * 5 ^ k := by
    refine Nat.le_trans ?_ (Nat.le_mul_of_pos_left _ (Nat.pos_of_ne_zero hu))
    rw [← hk]
    decide +kernel
  have hpos : 0 < u * 5 ^ k := Nat.mul_pos (Nat.pos_of_ne_zero hu) (Nat.pow_pos (by decide))
  have hmost := (length_digitChars_le_iff (by omega)).2 hupper
  have hleast : k - 330 < (digitChars (u * 5 ^ k)).length :=
    (Nat.pow_lt_pow_iff_right (by decide)).1 (hlower.trans_lt (lt_pow_length _))
  rw [ofDecimal_eq_round hpos.ne' (by dsimp only; omega) (by dsimp only; omega), ← round_of_value h]
  dsimp only
  rw [Int.toNat_neg_natCast, Int.neg_neg, Int.toNat_natCast, Nat.pow_zero, Nat.mul_one, one_eq hk]
  refine congrArg (ofMagnitude neg) (roundBits_congr (Nat.pow_pos (by decide)) Nat.one_pos ?_)
  rw [Nat.mul_one, Nat.mul_assoc, ← Nat.mul_pow]

/-- **The shortest decimal of a double reads back.** -/
theorem ofDecimal_shortest (h : x.value = .finite neg u) (hu : u ≠ 0) :
    ofDecimal x.shortest = x ∧ x.shortest.neg = neg := by
  unfold shortest
  rw [h]
  dsimp only
  rw [if_neg hu]
  split
  · rename_i d hd
    obtain ⟨n, -, hd⟩ := List.exists_of_findSome?_eq_some hd
    rw [ofDecimal_normal]
    exact withDigits?_eq_some hd
  · generalize hk : scale = k
    rw [ofDecimal_normal]
    exact ⟨ofDecimal_exact h hu hk, rfl⟩

end Binary64

/-! ### Texts without an exponent -/

namespace Decimal

variable {ds whole fraction : List Char} {neg : Bool} {d : Decimal} {s : Style}

theorem splitSign_append (neg : Bool) (hne : ds ≠ []) (hds : ∀ c ∈ ds, c.isDigit = true)
    (rest : List Char) :
    splitSign ((if neg then ['-'] else []) ++ (ds ++ rest)) = (neg, ds ++ rest) := by
  cases neg with
  | true => rfl
  | false =>
    obtain ⟨c, r, rfl⟩ := List.exists_cons_of_ne_nil hne
    have hc := hds c List.mem_cons_self
    rw [if_neg Bool.false_ne_true, List.nil_append, List.cons_append]
    unfold splitSign
    split
    · rename_i heq
      cases heq
      cases hc
    · rename_i heq
      cases heq
      cases hc
    · rfl

/-- A whole number is read. -/
theorem read?_whole (neg : Bool) (hne : ds ≠ []) (hds : ∀ c ∈ ds, c.isDigit = true) :
    read? ((if neg then ['-'] else []) ++ ds) = some ⟨neg, ofDigits ds, 0⟩ := by
  have hsign := splitSign_append neg hne hds []
  rw [List.append_nil] at hsign
  unfold read?
  rw [hsign]
  simp only [List.takeWhile_eq_self_iff.2 hds, List.dropWhile_eq_nil_iff.2 hds, hne, false_and,
    if_false, readExponent?, List.append_nil, Option.map_some, List.length_nil, Int.natCast_zero,
      Int.sub_zero]

/-- Digits before a point and after it are read. -/
theorem read?_point (neg : Bool) (hne : whole ≠ []) (hwhole : ∀ c ∈ whole, c.isDigit = true)
    (hfraction : ∀ c ∈ fraction, c.isDigit = true) :
    read? ((if neg then ['-'] else []) ++ (whole ++ '.' :: fraction)) =
      some ⟨neg, ofDigits (whole ++ fraction), -(fraction.length : Int)⟩ := by
  have hpoint : '.'.isDigit = false := rfl
  unfold read?
  rw [splitSign_append neg hne hwhole]
  simp only [List.takeWhile_append_of_pos hwhole, List.dropWhile_append_of_pos hwhole,
    List.takeWhile_cons, List.dropWhile_cons, hpoint, Bool.false_eq_true, if_false, List.append_nil,
    List.takeWhile_eq_self_iff.2 hfraction, List.dropWhile_eq_nil_iff.2 hfraction, hne, false_and,
      readExponent?, Option.map_some, Int.zero_sub]

/-- Digits written with a point in them are the same digits, and zeros. -/
theorem positional_parts (hne : ds ≠ []) (hds : ∀ c ∈ ds, c.isDigit = true) (lead : Int) :
    ∃ whole fraction k, positional ds lead true = whole ++ '.' :: fraction ∧ whole ≠ [] ∧
      (∀ c ∈ whole, c.isDigit = true) ∧ (∀ c ∈ fraction, c.isDigit = true) ∧
      ofDigits (whole ++ fraction) = ofDigits ds * 10 ^ k ∧
      -(fraction.length : Int) + (k : Nat) = lead + 1 - ds.length := by
  by_cases hlead : lead < 0
  · refine ⟨['0'], List.replicate (-lead - 1).toNat '0' ++ ds, 0, ?_, List.cons_ne_nil _ _,
      List.forall_mem_singleton.2 rfl, List.forall_mem_append.2 ⟨isDigit_of_mem_zeros, hds⟩, ?_, ?_⟩
    · rw [positional, if_pos hlead]
      simp
    · have hzeros : ['0'] ++ (List.replicate (-lead - 1).toNat '0' ++ ds) =
          List.replicate ((-lead - 1).toNat + 1) '0' ++ ds := by
        rw [List.replicate_succ, List.singleton_append, List.cons_append]
      rw [hzeros, ofDigits_zeros_append hds, Nat.pow_zero, Nat.mul_one]
    · rw [List.length_append, List.length_replicate]
      omega
  rw [positional, if_neg hlead]
  dsimp only
  rw [if_pos rfl]
  by_cases hlong : lead.toNat + 1 < ds.length
  · -- the point stands between two digits
    have hfraction : ds.drop (lead.toNat + 1) ≠ [] := by
      rw [Ne, List.drop_eq_nil_iff]
      omega
    refine ⟨ds.take (lead.toNat + 1), ds.drop (lead.toNat + 1), 0, ?_, ?_,
      fun c hc => hds c (List.mem_of_mem_take hc),
        fun c hc => hds c (List.mem_of_mem_drop hc), ?_, ?_⟩
    · rw [if_neg hfraction, Nat.sub_eq_zero_of_le hlong.le]
      simp
    · simpa using hne
    · rw [List.take_append_drop, Nat.pow_zero, Nat.mul_one]
    · rw [List.length_drop]
      omega
  · -- zeros come after the last digit
    have hshort := Nat.not_lt.1 hlong
    refine ⟨ds ++ List.replicate (lead.toNat + 1 - ds.length) '0', ['0'],
      lead.toNat + 1 - ds.length + 1, ?_, ?_, List.forall_mem_append.2 ⟨hds, isDigit_of_mem_zeros⟩,
        List.forall_mem_singleton.2 rfl, ?_, ?_⟩
    · rw [if_pos (List.drop_eq_nil_iff.2 hshort), List.take_of_length_le hshort]
    · simp [hne]
    · rw [List.append_assoc, ← List.replicate_one, List.replicate_append_replicate,
        ofDigits_append_zeros hds]
    · rw [List.length_singleton]
      omega

/-- The exponent of the first digit. -/
def lead (d : Decimal) : Int := ((digitChars d.digits).length : Int) - 1 + d.exponent

/-- **What is written without an exponent has digits before a point and after it, and the same
value.** -/
theorem text_parts (hdigits : d.digits ≠ 0) (hpositional : s.isPositional d.lead = true)
    (hpoint : s.point = true) :
    ∃ whole fraction, d.text s = (if d.neg then ['-'] else []) ++ (whole ++ '.' :: fraction) ∧
      whole ≠ [] ∧
      (∀ c ∈ whole, c.isDigit = true) ∧ (∀ c ∈ fraction, c.isDigit = true) ∧
      Binary64.ofDecimal ⟨d.neg, ofDigits (whole ++ fraction), -(fraction.length : Int)⟩ =
        Binary64.ofDecimal d := by
  have hchars : digitChars d.digits ≠ [] := Nat.toDigits_ne_nil
  obtain ⟨whole, fraction, k, htext, hne, hwhole, hfraction, hvalue, hexponent⟩ :=
    positional_parts hchars (fun c hc => Nat.isDigit_of_mem_toDigits (by decide) (by decide) hc)
      d.lead
  refine ⟨whole, fraction, ?_, hne, hwhole, hfraction, ?_⟩
  · rw [← htext, text, if_neg hdigits, hpoint]
    exact congrArg _ (if_pos hpositional)
  · have hsame : -(fraction.length : Int) + k = d.exponent := by
      unfold lead at hexponent
      omega
    rw [hvalue, ofDigits_digitChars, Binary64.ofDecimal_shift, hsame]

end Decimal

/-! ### Magnitudes -/

namespace Binary64

open Decimal

variable {x : Binary64} {neg : Bool} {u n : Nat} {d : Decimal} {m : Int}

/-- The units of the double nearest to a power of ten. -/
def powerUnits (m : Int) : Nat := unitsOfBits (roundBits (10 ^ m.toNat * one) (10 ^ (-m).toNat))

theorem units_ofDecimal (h : (ofDecimal d).value = .finite neg u) (hu : u ≠ 0) :
    d.digits ≠ 0 ∧
      u = unitsOfBits
        (roundBits (d.digits * 10 ^ d.exponent.toNat * one) (10 ^ (-d.exponent).toNat)) := by
  have hvalue {num den : Nat} (h : (round d.neg num den).value = .finite neg u) :
      u = unitsOfBits (roundBits num den) := by
    rw [round, value_ofMagnitude _ (roundBits_le_infinityBits num den)] at h
    split_ifs at h
    cases h
    rfl
  by_cases hsmall : d.digits = 0 ∨ ((digitChars d.digits).length : Int) + d.exponent < -330
  · have hzero : ofDecimal d = ofMagnitude d.neg 0 := by
      unfold ofDecimal
      exact if_pos hsmall
    rw [hzero, value_ofMagnitude _ (Nat.zero_le _), if_pos (by decide)] at h
    cases h
    exact absurd rfl hu
  rw [not_or, Int.not_lt] at hsmall
  by_cases hlarge : 310 < ((digitChars d.digits).length : Int) + d.exponent
  · have hinfinite : ofDecimal d = infinity d.neg := by
      unfold ofDecimal
      exact (if_neg (by omega)).trans (if_pos hlarge)
    rw [hinfinite, infinity, value_ofMagnitude _ (Nat.le_refl _), if_neg (Nat.lt_irrefl _)] at h
    cases h
  · rw [ofDecimal_eq_round hsmall.1 hsmall.2 (Int.not_lt.1 hlarge)] at h
    exact ⟨hsmall.1, hvalue h⟩

/-- A decimal is no smaller than the power of ten of its first digit, -/
theorem powerUnits_le (h : (ofDecimal d).value = .finite neg u) (hu : u ≠ 0) (hm : m ≤ d.lead) :
    powerUnits m ≤ u := by
  obtain ⟨hdigits, hunits⟩ := units_ofDecimal h hu
  have hlength := length_digitChars_pos d.digits
  have hexponents : m.toNat + (-d.exponent).toNat ≤ (digitChars d.digits).length - 1 +
      (d.exponent.toNat + (-m).toNat) := by
    unfold lead at hm
    omega
  rw [hunits]
  refine unitsOfBits_strictMono.monotone
    (roundBits_le_roundBits (Nat.pow_pos (by decide)) (Nat.pow_pos (by decide)) ?_)
  calc 10 ^ m.toNat * one * 10 ^ (-d.exponent).toNat =
      10 ^ (m.toNat + (-d.exponent).toNat) * one := by
        rw [Nat.pow_add, Nat.mul_right_comm]
    _ ≤ 10 ^ ((digitChars d.digits).length - 1 + (d.exponent.toNat + (-m).toNat)) * one :=
        Nat.mul_le_mul_right _ (Nat.pow_le_pow_right (by decide) hexponents)
    _ ≤ d.digits * (10 ^ d.exponent.toNat * 10 ^ (-m).toNat) * one := by
        rw [Nat.pow_add, Nat.pow_add 10 d.exponent.toNat]
        exact Nat.mul_le_mul_right _
          (Nat.mul_le_mul_right _ (pow_length_le (Nat.pos_of_ne_zero hdigits)))
    _ = d.digits * 10 ^ d.exponent.toNat * one * 10 ^ (-m).toNat := by
        rw [← Nat.mul_assoc, Nat.mul_right_comm]

/-- and no larger than the next one. -/
theorem le_powerUnits (h : (ofDecimal d).value = .finite neg u) (hu : u ≠ 0) (hm : d.lead < m) :
    u ≤ powerUnits m := by
  obtain ⟨hdigits, hunits⟩ := units_ofDecimal h hu
  have hlength := length_digitChars_pos d.digits
  have hexponents : (digitChars d.digits).length + (d.exponent.toNat + (-m).toNat) ≤ m.toNat +
      (-d.exponent).toNat := by
    unfold lead at hm
    omega
  rw [hunits]
  refine unitsOfBits_strictMono.monotone
    (roundBits_le_roundBits (Nat.pow_pos (by decide)) (Nat.pow_pos (by decide)) ?_)
  calc d.digits * 10 ^ d.exponent.toNat * one * 10 ^ (-m).toNat
      = d.digits * (10 ^ d.exponent.toNat * 10 ^ (-m).toNat) * one := by
        rw [← Nat.mul_assoc, Nat.mul_right_comm]
    _ ≤ 10 ^ ((digitChars d.digits).length + (d.exponent.toNat + (-m).toNat)) * one := by
        rw [Nat.pow_add, Nat.pow_add 10 d.exponent.toNat]
        exact Nat.mul_le_mul_right _ (Nat.mul_le_mul_right _ (lt_pow_length d.digits).le)
    _ ≤ 10 ^ (m.toNat + (-d.exponent).toNat) * one :=
        Nat.mul_le_mul_right _ (Nat.pow_le_pow_right (by decide) hexponents)
    _ = 10 ^ m.toNat * one * 10 ^ (-d.exponent).toNat := by rw [Nat.pow_add, Nat.mul_right_comm]

/-- From `2^53` on all doubles are whole. -/
theorem one_dvd_unitsOfBits (h : 2 ^ 53 * one ≤ unitsOfBits n) : one ∣ unitsOfBits n := by
  rw [one_eq rfl] at h ⊢
  generalize scale = k at h ⊢
  rcases Nat.lt_or_ge n (2 ^ 52) with hlt | hle
  · rw [unitsOfBits_of_lt hlt] at h
    have := Nat.le_mul_of_pos_right (2 ^ 53) (Nat.two_pow_pos k)
    omega
  · rw [unitsOfBits_of_le hle] at h ⊢
    have hrest := Nat.mod_lt n (Nat.two_pow_pos 52)
    have hless : 2 ^ 53 * 2 ^ k < 2 ^ 53 * 2 ^ (n / 2 ^ 52 - 1) :=
      h.trans_lt (Nat.mul_lt_mul_of_pos_right (by omega) (Nat.two_pow_pos _))
    have hexponent := (Nat.pow_lt_pow_iff_right (by decide)).1 (Nat.lt_of_mul_lt_mul_left hless)
    exact Dvd.dvd.mul_left (Nat.pow_dvd_pow 2 hexponent.le) _

theorem powerUnits_sixteen : powerUnits 16 = 10 ^ 16 * one := by
  obtain ⟨b, hb⟩ := exists_unitsOfBits (by decide : 5 ^ 16 < 2 ^ 53) (16 + scale)
  have hunits : unitsOfBits b = 10 ^ 16 * one := by
    rw [hb, Nat.pow_add, ← one_eq rfl, ← Nat.mul_assoc, ← Nat.mul_pow]
  have hless : unitsOfBits b < unitsOfBits infinityBits := by
    rw [hunits]
    exact (Nat.mul_le_mul_right one (by decide)).trans_lt one_lt_infinity
  have hmax := unitsOfBits_strictMono.lt_iff_lt.1 hless
  rw [powerUnits, show (16 : Int).toNat = 16 from rfl, show (-16 : Int).toNat = 0 from
    rfl, Nat.pow_zero, ← hunits, roundBits_unitsOfBits hmax.le]

/-- The magnitude bits of the double nearest to `0.00001`. -/
def leastBits : Nat := roundBits one (10 ^ 5)

/-- The double nearest to `0.00001` is the least one that is not smaller, and has its first digit at
the fifth place after the point. -/
theorem leastBits_spec :
    powerUnits (-5) = unitsOfBits leastBits ∧ one ≤ 10 ^ 5 * unitsOfBits leastBits ∧
    10 ^ 5 * unitsOfBits (leastBits - 1) < one ∧ ∀ neg,
      (ofMagnitude neg leastBits).shortest.lead = -5 := by
  decide +kernel

/-- **The first digit of a number stands at the fifth place after the point, or before it, from
`0.00001` on.** -/
theorem le_lead_iff (h : x.value = .finite neg u) (hu : u ≠ 0) :
    -5 ≤ x.shortest.lead ↔ one ≤ 10 ^ 5 * u := by
  obtain ⟨hreads, -⟩ := ofDecimal_shortest h hu
  obtain ⟨hpower, hleast, hbefore, hfifth⟩ := leastBits_spec
  have hvalue := h
  rw [← hreads] at hvalue
  constructor
  · intro hlead
    have hle := powerUnits_le hvalue hu hlead
    rw [hpower] at hle
    exact hleast.trans (Nat.mul_le_mul_left _ hle)
  · intro hlarge
    by_contra hlead
    -- there is no double between `0.00001` and the nearest one, which has its first digit at the
    -- fifth place
    obtain ⟨n, -, rfl, rfl⟩ := eq_ofMagnitude h
    have hle := le_powerUnits hvalue hu (Int.not_le.1 hlead)
    rw [hpower] at hle
    rcases Nat.lt_or_eq_of_le (unitsOfBits_strictMono.le_iff_le.1 hle) with hlt | heq
    · have hbelow := unitsOfBits_strictMono.monotone (Nat.le_sub_one_of_lt hlt)
      have hsmall := (Nat.mul_le_mul_left (10 ^ 5) hbelow).trans_lt hbefore
      exact absurd hlarge (Nat.not_le.2 hsmall)
    · rw [heq, hfifth] at hlead
      exact hlead (Int.le_refl _)

theorem ne_zero_of_not_whole (h : u % one = 0 → 2 ^ 63 * one ≤ u) : u ≠ 0 := by
  rintro rfl
  have hpos : 0 < 2 ^ 63 * one := Nat.mul_pos (Nat.two_pow_pos 63) one_pos
  exact absurd (h (Nat.zero_mod one)) (Nat.not_le.2 hpos)

/-- **A number that is not whole, or not below `2^63`, is written without an exponent if it is at
least `0.00001` and below `2^63`.** -/
theorem isPositional_iff (h : x.value = .finite neg u) (hfloat : u % one = 0 → 2 ^ 63 * one ≤ u) :
    Style.document.isPositional x.shortest.lead = true ↔ one ≤ 10 ^ 5 * u ∧ u < 2 ^ 63 * one := by
  have hu := ne_zero_of_not_whole hfloat
  have hvalue := h
  rw [← (ofDecimal_shortest h hu).1] at hvalue
  have hhigh : x.shortest.lead ≤ 15 ↔ u < 2 ^ 63 * one := by
    constructor
    · intro hlead
      have hle := le_powerUnits (m := 16) hvalue hu (by omega)
      rw [powerUnits_sixteen] at hle
      exact hle.trans_lt (Nat.mul_lt_mul_of_pos_right (by decide) one_pos)
    · intro hless
      by_contra hlead
      have hle := powerUnits_le (m := 16) hvalue hu (by omega)
      rw [powerUnits_sixteen] at hle
      obtain ⟨n, -, -, rfl⟩ := eq_ofMagnitude h
      have hwhole := one_dvd_unitsOfBits (Nat.le_trans (Nat.mul_le_mul_right _ (by decide)) hle)
      exact absurd (hfloat (Nat.mod_eq_zero_of_dvd hwhole)) (Nat.not_le.2 hless)
  rw [← le_lead_iff h hu, ← hhigh]
  simp [Style.isPositional, Style.document]

end Binary64

end Parley

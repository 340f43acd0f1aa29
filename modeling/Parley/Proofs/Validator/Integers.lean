import Parley.Proofs.Guard.Numerals
import Parley.Proofs.Number.Whole
import Parley.Proofs.Validator.Rules

/-!
# Integers that are validated

The validators of numbers see doubles, and what they store is made of a double again.  An integer
comes out of this as it was if it has at most 53 significant bits and is below `2^63` in size.  A
range looks at the nearest double too, and so takes integers beyond its bounds whose nearest double
is a bound.

* `Number.exact`, `Number.exact_toBinary64`: numbers that are made of doubles stand for them;
* `ofNumber_ofInt_eq_iff`: what is stored for an integer;
* `acceptRange_ofInt_iff`: the integers in a range;
* `integer_kept_iff`: validators of numbers.
-/

namespace Parley

open Binary64 (FitsSignificand wholeUnits one signed)

variable {x : Binary64} {n : Number} {i : ℤ}

/-! ### Numbers that are made of doubles -/

namespace Number

/-- What a number stands for. -/
def exact : Number → ℚ
  | .int i => i
  | .float x => x.exact

/-- A number that is made of a double is an integer with at most 53 significant bits, or the double
itself. -/
theorem fits_of_ofBinary64? (h : ofBinary64? x = some n) : (∃ i, n = .int i ∧ i.natAbs < 2 ^ 63 ∧
    FitsSignificand i.natAbs ∧ x.rank = some (i * one)) ∨ n = .float x := by
  obtain ⟨neg, u, hx, ⟨w, hmax, hu, rfl⟩ | ⟨rfl, -⟩⟩ := Guard.ofBinary64?_cases h
  · rw [hu] at hx
    refine .inl ⟨_, rfl, ?_⟩
    rw [Guard.natAbs_sign]
    obtain ⟨b, hb, -, hunits⟩ := Binary64.eq_ofMagnitude hx
    have hwhole : wholeUnits w = w * one := Binary64.wholeUnits_of_unitsOfBits hb.le hunits.symm
    refine ⟨hmax, (Binary64.wholeUnits_eq_iff (hmax.le.trans (by decide))).1 hwhole, ?_⟩
    simp only [Binary64.rank, hx, Option.some.injEq]
    cases neg with
    | true => simp only [if_true, Nat.cast_mul, Int.neg_mul]
    | false => simp only [Bool.false_eq_true, if_false, Nat.cast_mul]
  · exact .inr rfl

theorem toInt?_ofInt (h : i.natAbs ≤ 2 ^ 64) :
    (Binary64.ofInt i).toInt? = some (signed (decide (i < 0)) (wholeUnits i.natAbs / one)) := by
  rw [Binary64.toInt?, Binary64.value_ofInt h]
  exact if_pos (Nat.mod_eq_zero_of_dvd (Binary64.one_dvd_wholeUnits h))

theorem toInt?_ofInt_eq_iff (h : i.natAbs ≤ 2 ^ 64) :
    (Binary64.ofInt i).toInt? = some i ↔ FitsSignificand i.natAbs := by
  rw [← Binary64.wholeUnits_eq_iff h, toInt?_ofInt h, Option.some.injEq]
  obtain ⟨q, hq⟩ := Binary64.one_dvd_wholeUnits h
  rw [hq, Nat.mul_div_cancel_left q Binary64.one_pos, Nat.mul_comm one q,
    Nat.mul_left_inj Binary64.one_pos.ne']
  unfold signed
  split_ifs with hneg
  · rw [decide_eq_true_eq] at hneg
    omega
  · rw [decide_eq_true_eq] at hneg
    omega

theorem ofBinary64?_ofInt_eq_iff (h : i.natAbs ≤ 2 ^ 64) :
    ofBinary64? (Binary64.ofInt i) = some (.int i) ↔
      i.natAbs < 2 ^ 63 ∧ FitsSignificand i.natAbs := by
  rw [← toInt?_ofInt_eq_iff h, toInt?_ofInt h]
  simp only [ofBinary64?, toInt?_ofInt h, Nat.pow_eq, Option.some.injEq]
  constructor
  · intro hint
    split_ifs at hint with hmax
    have hself := int.inj hint
    rw [hself] at hmax
    exact ⟨hmax, hself⟩
  · rintro ⟨hmax, hself⟩
    rw [hself, if_pos hmax]

/-- **A number that is made of a double stands for a double of the same size.** -/
theorem toBinary64_of_ofBinary64? (h : ofBinary64? x = some n) :
    n.toBinary64.rank = x.rank ∧ ofBinary64? n.toBinary64 = some n := by
  obtain ⟨i, rfl, hmax, hfits, hrank⟩ | rfl := fits_of_ofBinary64? h
  · have hsize : i.natAbs ≤ 2 ^ 64 := hmax.le.trans (by decide)
    refine ⟨?_, (ofBinary64?_ofInt_eq_iff hsize).2 ⟨hmax, hfits⟩⟩
    rw [hrank, toBinary64, Binary64.rank, Binary64.value_ofInt hsize,
      (Binary64.wholeUnits_eq_iff hsize).2 hfits]
    exact congrArg some (Binary64.signed_natAbs i one)
  · exact ⟨rfl, h⟩

theorem exact_toBinary64 (h : ofBinary64? x = some n) :
    n.toBinary64.isFinite = true ∧ n.toBinary64.exact = n.exact := by
  obtain ⟨i, rfl, hmax, hfits, -⟩ | rfl := fits_of_ofBinary64? h
  · have hsize : i.natAbs ≤ 2 ^ 64 := hmax.le.trans (by decide)
    exact ⟨Binary64.isFinite_ofInt hsize, (Binary64.exact_ofInt_eq_iff hsize).2 hfits⟩
  · exact ⟨Guard.exists_ofBinary64?_iff.1 ⟨_, h⟩, rfl⟩

end Number

/-- An integer that is a double can be written. -/
theorem Guard.isOperand_ofInt (h : i.natAbs < 2 ^ 63) (hfits : FitsSignificand i.natAbs) :
    IsOperand (.number (.ofInt i)) (.value (.int i)) := by
  have hsize : i.natAbs ≤ 2 ^ 64 := h.le.trans (by decide)
  exact .number (Binary64.isFinite_ofInt hsize)
    ((Number.ofBinary64?_ofInt_eq_iff hsize).2 ⟨h, hfits⟩)

/-! ### Validators of numbers -/

namespace Validator

open Guard (parseCall)

variable {spec : String} {v : Validator} {call : Guard.Call} {lo hi : Number}

theorem ofNumber_eq_number_iff : ofNumber x = .number n ↔ Number.ofBinary64? x = some n := by
  unfold ofNumber
  cases Number.ofBinary64? x <;> simp

theorem ofNumber_ofInt_eq_iff (h : i.natAbs ≤ 2 ^ 64) :
    ofNumber (Binary64.ofInt i) = .int i ↔ i.natAbs < 2 ^ 63 ∧ FitsSignificand i.natAbs :=
  ofNumber_eq_number_iff.trans (Number.ofBinary64?_ofInt_eq_iff h)

theorem acceptRange_eq_ok_iff {lo hi : Binary64} {j w : Json} : acceptRange lo hi j = .ok w ↔
    ∃ x, numberOf j = .ok x ∧ x.lt lo = false ∧ hi.lt x = false ∧ ofNumber x = w := by
  unfold acceptRange
  rw [bind_eq_ok]
  refine exists_congr fun x => and_congr_right fun _ => ?_
  split_ifs with hout
  · refine iff_of_false nofun ?_
    rintro ⟨hlow, hhigh, -⟩
    rw [hlow, hhigh] at hout
    cases hout
  · rw [Bool.or_eq_true, not_or, Bool.not_eq_true, Bool.not_eq_true] at hout
    rw [pure_eq_ok, and_iff_right hout.1, and_iff_right hout.2]

theorem acceptInteger_eq_ok_iff {j w : Json} :
    acceptInteger j = .ok w ↔ ∃ x, numberOf j = .ok x ∧ x.toInt?.isSome = true ∧
      ofNumber x = w := by
  unfold acceptInteger
  rw [bind_eq_ok]
  refine exists_congr fun x => and_congr_right fun _ => ?_
  split_ifs with hwhole
  · rw [pure_eq_ok, and_iff_right hwhole]
  · exact iff_of_false nofun fun h => hwhole h.1

/-- **A range takes the integers between its bounds, and those whose nearest double is a bound.** -/
theorem acceptRange_ofInt_iff {x y : Binary64} (hlo : Number.ofBinary64? x = some lo)
    (hhi : Number.ofBinary64? y = some hi) (h : i.natAbs ≤ 2 ^ 64) :
    (∃ w, acceptRange lo.toBinary64 hi.toBinary64 (.int i) = .ok w) ↔
      (lo.exact ≤ i ∨ lo.exact = (Binary64.ofInt i).exact) ∧
      (i ≤ hi.exact ∨ hi.exact = (Binary64.ofInt i).exact) := by
  obtain ⟨hfinite, hexact⟩ := Number.exact_toBinary64 hlo
  obtain ⟨hfinite', hexact'⟩ := Number.exact_toBinary64 hhi
  rw [← hexact, ← hexact', ← Binary64.exact_le_ofInt_iff hfinite h,
    ← Binary64.ofInt_le_exact_iff hfinite' h, ← not_lt, ← not_lt,
    ← Binary64.lt_iff_exact (Binary64.isFinite_ofInt h) hfinite, ← Binary64.lt_iff_exact hfinite'
      (Binary64.isFinite_ofInt h), Bool.not_eq_true, Bool.not_eq_true]
  simp only [acceptRange_eq_ok_iff]
  constructor
  · rintro ⟨w, x, hx, hlow, hhigh, -⟩
    cases hx
    exact ⟨hlow, hhigh⟩
  · rintro ⟨hlow, hhigh⟩
    exact ⟨_, _, rfl, hlow, hhigh, rfl⟩

/-- **An integer that a validator of numbers accepts is stored as it is exactly if it is below
`2^63` in size and has at most 53 significant bits.  A range accepts the integers between its bounds
and those whose nearest double is a bound; the other validators of numbers accept all integers.** -/
theorem integer_kept_iff (hcompile : Rules.builtin.compile spec = .ok v)
    (hcall : parseCall spec = .ok call) (hlow : -2 ^ 63 ≤ i) (hhigh : i < 2 ^ 64) :
    (call.name ∈ ["number", "integer", "range"] → ∀ w, v.accept (.int i) = .ok w →
      (w = .int i ↔ i.natAbs < 2 ^ 63 ∧ FitsSignificand i.natAbs)) ∧
    (call.name ∈ ["number", "integer"] → ∃ w, v.accept (.int i) = .ok w) ∧
    (call.name = "range" → ∃ lo hi, call.args = [.number lo, .number hi] ∧
      ((∃ w, v.accept (.int i) = .ok w) ↔
        (lo.exact ≤ i ∨ lo.exact = (Binary64.ofInt i).exact) ∧
          (i ≤ hi.exact ∨ hi.exact = (Binary64.ofInt i).exact))) := by
  have hsize : i.natAbs ≤ 2 ^ 64 := by omega
  have hkept (w : Json) (hw : ofNumber (Binary64.ofInt i) = w) :
      w = .int i ↔ i.natAbs < 2 ^ 63 ∧ FitsSignificand i.natAbs := by
    rw [← hw, ofNumber_ofInt_eq_iff hsize]
  have hliteral := Guard.isLiteral_of_parseCall hcall
  obtain ⟨-, call', hcall', hbuiltin⟩ := compile_builtin_iff.1 hcompile
  obtain rfl : call = call' := Except.ok.inj (hcall.symm.trans hcall')
  obtain ⟨name, args⟩ := call
  obtain ⟨text, accept⟩ := v
  dsimp only at hbuiltin hliteral ⊢
  cases hbuiltin with
  | @range lo hi hle =>
    refine ⟨fun _ w hw => ?_, fun hname => absurd hname (by decide), fun _ => ⟨lo, hi, rfl, ?_⟩⟩
    · obtain ⟨x, hx, -, -, hw⟩ := acceptRange_eq_ok_iff.1 hw
      cases hx
      exact hkept w hw
    · have hnumber {n : Number} (hn : .number n ∈ [Json.number lo, .number hi]) :
          ∃ x, Number.ofBinary64? x = some n := by
        cases hliteral _ hn with
        | number h => exact ⟨_, h⟩
      obtain ⟨x, hx⟩ := hnumber (n := lo) (by simp)
      obtain ⟨y, hy⟩ := hnumber (n := hi) (by simp)
      exact acceptRange_ofInt_iff hx hy hsize
  | number =>
    refine ⟨fun _ w hw => ?_, fun _ => ⟨_, rfl⟩, fun hname => absurd hname (by decide)⟩
    cases hw
    exact hkept _ rfl
  | integer =>
    refine ⟨fun _ w hw => ?_, fun _ => ⟨_, acceptInteger_eq_ok_iff.2 ⟨_, rfl, ?_, rfl⟩⟩,
      fun hname => absurd hname (by decide)⟩
    · obtain ⟨x, hx, -, hw⟩ := acceptInteger_eq_ok_iff.1 hw
      cases hx
      exact hkept w hw
    · show (Binary64.ofInt i).toInt?.isSome = true
      rw [Number.toInt?_ofInt hsize]
      rfl
  | length | pattern | oneOf | boolean | email =>
    exact ⟨fun hname => absurd hname (by decide), fun hname => absurd hname (by decide),
      fun hname => absurd hname (by decide)⟩

end Validator

namespace Samples

open Validator Guard

/-- The tokens of two specifications. -/
theorem tokens_specs : tokens "integer".toList = .ok [(0, .name "integer")] ∧
    tokens "range(0, 9007199254740992)".toList = .ok [(0, .name "range"), (5, .openParen),
      (6, .number (.ofInt 0)), (7, .comma), (9, .number (.ofInt (2 ^ 53))), (25, .closeParen)] := by
  decide +kernel

theorem compile_integer : Rules.builtin.compile "integer" = .ok ⟨"integer", acceptInteger⟩ :=
  compile_builtin_iff.2
    ⟨rfl, _, parseCall_eq_ok_iff.2 ⟨_, tokens_specs.1, .bare "integer"⟩, .integer⟩

theorem parseCall_exact :
    parseCall "range(0, 9007199254740992)" = .ok ⟨"range", [.int 0, .int (2 ^ 53)]⟩ := by
  have hlow : IsOperand (.number (.ofInt 0)) (.value (.int 0)) :=
    isOperand_ofInt (by decide) ⟨0, 0, by decide, rfl⟩
  have hhigh : IsOperand (.number (.ofInt (2 ^ 53))) (.value (.int (2 ^ 53))) :=
    isOperand_ofInt (by decide) ⟨1, 53, by decide, by decide⟩
  exact parseCall_eq_ok_iff.2
    ⟨_, tokens_specs.2, .applied "range" (.some (.more hlow (.one hhigh)))⟩

/-- The double nearest to `2^53 + 1` is `2^53`, and the least integer of 64 bits is none that is
made of a double. -/
theorem nearest_doubles : Binary64.ofInt (2 ^ 53 + 1) = .ofInt (2 ^ 53) ∧
    Number.ofBinary64? (.ofInt (-2 ^ 63)) = some (.float (.ofInt (-2 ^ 63))) ∧
    (Binary64.ofInt (2 ^ 53)).lt (.ofInt 0) = false ∧
    (Binary64.ofInt (2 ^ 53)).lt (.ofInt (2 ^ 53)) = false := by
  decide +kernel

/-- The integers from 0 to `2^53`. -/
theorem compile_exact : Rules.builtin.compile "range(0, 9007199254740992)" =
    .ok ⟨"range(0, 9007199254740992)", acceptRange (.ofInt 0) (.ofInt (2 ^ 53))⟩ :=
  compile_builtin_iff.2 ⟨rfl, _, parseCall_exact, .range nearest_doubles.2.2.1⟩

/-- The integer after the upper bound is taken for the bound, its nearest double, and is not
kept. -/
theorem exact_takes_next :
    Rules.builtin.compile "range(0, 9007199254740992)" =
        .ok ⟨"range(0, 9007199254740992)", acceptRange (.ofInt 0) (.ofInt (2 ^ 53))⟩ ∧
      parseCall "range(0, 9007199254740992)" = .ok ⟨"range", [.int 0, .int (2 ^ 53)]⟩ ∧
      ∃ w, acceptRange (.ofInt 0) (.ofInt (2 ^ 53)) (.int (2 ^ 53 + 1)) = .ok w ∧
        ¬ FitsSignificand (2 ^ 53 + 1) ∧ w ≠ .int (2 ^ 53 + 1) := by
  obtain ⟨hkept, -, hrange⟩ :=
    integer_kept_iff compile_exact parseCall_exact (i := 2 ^ 53 + 1) (by decide) (by decide)
  obtain ⟨lo, hi, hargs, haccept⟩ := hrange rfl
  cases hargs
  have hlow : ((0 : ℤ) : ℚ) ≤ ((2 ^ 53 + 1 : ℤ) : ℚ) := Int.cast_le.2 (by decide)
  have hhigh : ((2 ^ 53 : ℤ) : ℚ) = (Binary64.ofInt (2 ^ 53 + 1)).exact := by
    rw [nearest_doubles.1, (Binary64.exact_ofInt_eq_iff (by decide)).2
      ⟨1, 53, by decide, by decide⟩]
  obtain ⟨w, hw⟩ := haccept.2 ⟨.inl hlow, .inr hhigh⟩
  have hlarge : ¬ FitsSignificand (2 ^ 53 + 1) := by
    rintro ⟨m, k, hm, hmk⟩
    cases k with
    | zero => omega
    | succ k =>
      -- the number is odd
      have hodd := congrArg (· % 2) hmk
      simp [Nat.pow_succ, ← Nat.mul_assoc] at hodd
  exact ⟨compile_exact, parseCall_exact, w, hw, hlarge,
    fun hself => hlarge ((hkept (by decide) w hw).1 hself).2⟩

/-- `2^53 + 1` is stored as `2^53`, and is taken for an integer up to `2^53`; the least integer of
64 bits is stored as a number with a point. -/
theorem integers_changed :
    Rules.builtin.compile "integer" = .ok ⟨"integer", acceptInteger⟩ ∧
      acceptInteger (.int (2 ^ 53 + 1)) = .ok (.int (2 ^ 53)) ∧
      acceptInteger (.int (-2 ^ 63)) = .ok (.number (.float (.ofInt (-2 ^ 63)))) ∧
      Rules.builtin.compile "range(0, 9007199254740992)" =
        .ok ⟨"range(0, 9007199254740992)", acceptRange (.ofInt 0) (.ofInt (2 ^ 53))⟩ ∧
      acceptRange (.ofInt 0) (.ofInt (2 ^ 53)) (.int (2 ^ 53 + 1)) = .ok (.int (2 ^ 53)) := by
  obtain ⟨hnearest, hleast, hlow, hhigh⟩ := nearest_doubles
  have hint (i : ℤ) (hi : i.natAbs ≤ 2 ^ 64) : (Binary64.ofInt i).toInt?.isSome = true := by
    rw [Number.toInt?_ofInt hi]
    rfl
  have hnext : ofNumber (.ofInt (2 ^ 53)) = .int (2 ^ 53) :=
    (ofNumber_ofInt_eq_iff (by decide)).2 ⟨by decide, 1, 53, by decide, by decide⟩
  have habove : (Binary64.ofInt (2 ^ 53)).lt (.ofInt (2 ^ 53 + 1)) = false :=
    (congrArg (Binary64.ofInt (2 ^ 53)).lt hnearest).trans hhigh
  rw [← hnearest] at hnext hlow
  exact ⟨compile_integer, acceptInteger_eq_ok_iff.2 ⟨_, rfl, hint _ (by decide), hnext⟩,
    acceptInteger_eq_ok_iff.2 ⟨_, rfl, hint _ (by decide), ofNumber_eq_number_iff.2 hleast⟩,
    compile_exact, acceptRange_eq_ok_iff.2 ⟨_, rfl, hlow, habove, hnext⟩⟩

end Samples

end Parley

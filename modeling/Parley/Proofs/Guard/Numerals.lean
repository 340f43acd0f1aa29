import Parley.Proofs.Guard.Scanning
import Parley.Proofs.Json.Figures
import Parley.Proofs.Number.Shortest

/-!
# Numbers in the text of a guard

The scanner takes digits and points for a number, and nothing else.  Integers and numbers of
moderate size are shown in this way, and are read again as the same number.  Other numbers are shown
with an exponent, which is not read.

* `IsNumeral`, `isNumeral_iff`: the texts that are read as one operand, which is a number;
* `scans_number`, `not_isNumeral_exponent`: a number with its sign, and one with an exponent;
* `Parley.Number.IsModerate`, `shown_isNumeral_iff`: the numbers that are read the way they are
  shown.
-/

namespace Parley

/-- Integers, and the other numbers from `0.00001` to below `2^63` in size. -/
def Number.IsModerate : Number → Prop
  | .int _ => True
  | .float x => ∃ neg u, x.value = .finite neg u ∧ Binary64.one ≤ 10 ^ 5 * u ∧
      u < 2 ^ 63 * Binary64.one

namespace Guard

/-- A text is read as one operand, which is this number. -/
def IsNumeral (cs : List Char) (n : Number) : Prop :=
  ∃ ts h, scan 0 cs = .ok ts ∧ operand (byteLength cs) ts = .ok ⟨.value (.number n), [], h⟩

variable {cs rest : List Char} {n : Number} {x : Binary64} {neg : Bool} {c : Char}

theorem isNumeral_iff :
    IsNumeral cs n ↔ ∃ pos x, scan 0 cs = .ok [(pos, .number x)] ∧
      Number.ofBinary64? x = some n := by
  constructor
  · rintro ⟨ts, h, hscan, hoperand⟩
    obtain ⟨pos, t, rfl, ht⟩ := operand_eq_ok hoperand
    cases ht with
    | number hfinite hn => exact ⟨pos, _, hscan, hn⟩
  · rintro ⟨pos, x, hscan, hn⟩
    exact ⟨_, _, hscan, operand_cons (.number (exists_ofBinary64?_iff.1 ⟨n, hn⟩) hn) []⟩

theorem Scans.isNumeral (h : Scans cs [.number x]) (hn : Number.ofBinary64? x = some n) :
    IsNumeral cs n := by
  obtain ⟨us, hscan, hkinds⟩ := h 0
  obtain ⟨pos, r, rfl, hr⟩ := kinds_eq_cons hkinds
  obtain rfl := List.map_eq_nil_iff.1 hr
  exact isNumeral_iff.2 ⟨pos, x, hscan, hn⟩

/-! ### One number -/

/-- The ranges of digits and of the sign. -/
def numberStartRanges : Text.Ranges := [(0x2d, 0x2d), (0x30, 0x39)]

theorem numberStartRanges_contains (h : startsNumber c rest = true) :
    numberStartRanges.contains c = true := by
  rw [Text.Ranges.contains_iff]
  simp only [startsNumber, Bool.or_eq_true, Bool.and_eq_true, decide_eq_true_eq, Char.isDigit] at h
  rcases h with h | ⟨rfl, -⟩
  · exact ⟨(0x30, 0x39), by simp [numberStartRanges], h⟩
  · exact ⟨(0x2d, 0x2d), by simp [numberStartRanges], by decide⟩

/-- What starts a number starts nothing else. -/
theorem startsNumber_apart (h : startsNumber c rest = true) :
    Text.isBlank c = false ∧ c ∉ ['=', '!', '<', '>', '&', '|'] ∧ singleToken? c = none ∧
    ¬ (c = '"' ∨ c = '\'') := by
  have hblank : Text.isBlank c = false :=
    Text.Ranges.not_contains (by decide) (numberStartRanges_contains h)
  have hsigns : c ∉ ['=', '!', '<', '>', '&', '|', '(', ')', ',', '"', '\''] := by
    intro hc
    have hapart : Text.Ranges.contains (['=', '!', '<', '>', '&', '|', '(', ')', ',', '"', '\''].map
        fun d => (d.toNat, d.toNat)) c = false :=
      Text.Ranges.not_contains (by decide) (numberStartRanges_contains h)
    rw [← Bool.not_eq_true, Text.Ranges.contains_iff] at hapart
    exact hapart ⟨_, List.mem_map_of_mem hc, Nat.le_refl _, Nat.le_refl _⟩
  simp only [List.mem_cons, List.not_mem_nil, or_false, not_or] at hsigns ⊢
  simp only [singleToken?, hblank, hsigns, not_false_eq_true, if_false, and_self]

/-- Digits and points are taken for a number as far as they go. -/
theorem lexeme_number (hstart : startsNumber c (cs ++ rest) = true)
    (hcs : ∀ d ∈ cs, isNumberChar d = true) (hrest : ∀ d ∈ rest.head?, isNumberChar d = false) :
    ∃ h, lexeme c (cs ++ rest) = match Binary64.read? (c :: cs) with
      | none => .error (.badNumber (String.ofList (c :: cs)))
      | some x => .ok ⟨some (.number x), byteLength (c :: cs), rest, h⟩ := by
  obtain ⟨hblank, hpair, hsingle, hquote⟩ := startsNumber_apart hstart
  obtain ⟨htake, hdrop⟩ := span_of_head hcs hrest
  refine ⟨by simp, ?_⟩
  rw [lexeme_eq_lexemeFrom fun d _ => pairToken?_eq_none hpair d]
  cases hread : Binary64.read? (c :: cs) <;>
    simp [lexemeFrom, hblank, hsingle, hquote, hstart, htake, hdrop, hread]

/-- A sign and a digit in front of digits and points. -/
theorem startsNumber_sign (hc : c.isDigit = true) (hcs : ∀ d ∈ cs, isNumberChar d = true)
    (neg : Bool) :
    ∃ f r, (if neg then ['-'] else []) ++ c :: cs = f :: r ∧
      (∀ rest, startsNumber f (r ++ rest) = true) ∧
      ∀ d ∈ r, isNumberChar d = true := by
  have hnumber : ∀ d ∈ c :: cs, isNumberChar d = true :=
    List.forall_mem_cons.2 ⟨by simp [isNumberChar, hc], hcs⟩
  cases neg with
  | true => exact ⟨'-', c :: cs, rfl, fun rest => by simp [startsNumber, hc], hnumber⟩
  | false => exact ⟨c, cs, rfl, fun rest => by simp [startsNumber, hc], hcs⟩

theorem scans_number (hc : c.isDigit = true) (hcs : ∀ d ∈ cs, isNumberChar d = true)
    (hread : Binary64.read? ((if neg then ['-'] else []) ++ c :: cs) = some x) :
    Scans ((if neg then ['-'] else []) ++ c :: cs) [.number x] := by
  obtain ⟨f, r, htext, hstart, hr⟩ := startsNumber_sign hc hcs neg
  rw [htext] at hread ⊢
  obtain ⟨h, hlexeme⟩ := lexeme_number (hstart []) hr nofun
  rw [hread] at hlexeme
  have hscans := scans_nil.of_lexeme hlexeme
  rwa [List.append_nil] at hscans

theorem scan_ne_nil {pos : ℕ} {ts : Tokens} (hblank : Text.isBlank c = false)
    (h : scan pos (c :: cs) = .ok ts) :
    ts ≠ [] := by
  rintro rfl
  rw [scan] at h
  split at h
  · cases h
  · rename_i hlexeme
    split at h
    · cases h
    · split at h
      · rcases lexeme_cases hlexeme with ⟨htrue, -, -⟩ | ⟨t, ht, -⟩ | ⟨-, ht, -⟩
        · rw [hblank] at htrue
          cases htrue
        · cases ht
        · cases ht
      · cases h

/-- An exponent is no part of a number. -/
theorem not_isNumeral_exponent (neg : Bool) (hc : c.isDigit = true)
    (hcs : ∀ d ∈ cs, isNumberChar d = true) :
    ¬ IsNumeral ((if neg then ['-'] else []) ++ c :: cs ++ 'e' :: rest) n := by
  intro h
  obtain ⟨pos, x, hscan, -⟩ := isNumeral_iff.1 h
  obtain ⟨f, r, htext, hstart, hr⟩ := startsNumber_sign hc hcs neg
  have hends : ∀ d ∈ ('e' :: rest).head?, isNumberChar d = false := by
    rintro d ⟨⟩
    rfl
  obtain ⟨hle, hlexeme⟩ := lexeme_number (hstart _) hr hends
  rw [htext, List.cons_append, scan, hlexeme] at hscan
  cases hread : Binary64.read? (f :: r) with
  | none =>
    rw [hread] at hscan
    cases hscan
  | some y =>
    rw [hread] at hscan
    cases hrest : scan (0 + byteLength (f :: r)) ('e' :: rest) with
    | error e =>
      simp only [hrest] at hscan
      cases hscan
    | ok us =>
      simp only [hrest] at hscan
      cases hscan
      exact scan_ne_nil (by decide) hrest rfl

/-! ### Numbers as they are shown -/

theorem chars_number (n : Number) :
    (Operand.value (.number n)).chars = (Json.numberText n).toList := rfl

theorem isNumberChar_of_isDigit (h : c.isDigit = true) : isNumberChar c = true := by
  rw [isNumberChar, h, Bool.true_or]

theorem natAbs_sign (neg : Bool) (w : ℕ) : (if neg then -(w : ℤ) else w).natAbs = w := by
  cases neg <;> simp

theorem ofBinary64?_zero (neg : Bool) :
    Number.ofBinary64? (Binary64.ofDecimal ⟨neg, 0, 0⟩) = some (.int 0) := by
  have hzero : Binary64.ofDecimal ⟨neg, 0, 0⟩ = Binary64.ofMagnitude neg 0 := by
    rw [Binary64.ofDecimal]
    exact if_pos (.inl rfl)
  have hwhole : (Binary64.ofMagnitude neg 0).toInt? = some 0 := by
    rw [Binary64.toInt?, Binary64.value_zero]
    dsimp only
    rw [if_pos (Nat.zero_mod _), Nat.zero_div]
    cases neg <;> rfl
  rw [hzero, Number.ofBinary64?, hwhole]
  rfl

/-- A number that is read is an integer below `2^63` in size, or else it is not whole or not below
`2^63`. -/
theorem ofBinary64?_cases (h : Number.ofBinary64? x = some n) :
    ∃ neg u, x.value = .finite neg u ∧
      ((∃ w < 2 ^ 63, u = w * Binary64.one ∧ n = .int (if neg then -(w : ℤ) else w)) ∨
        n = .float x ∧ (u % Binary64.one = 0 → 2 ^ 63 * Binary64.one ≤ u)) := by
  have hfinite := exists_ofBinary64?_iff.1 ⟨n, h⟩
  unfold Number.ofBinary64? at h
  cases hvalue : x.value with
  | nan | infinite neg =>
    rw [Binary64.isFinite, hvalue] at hfinite
    cases hfinite
  | finite neg u =>
    refine ⟨neg, u, rfl, ?_⟩
    by_cases hwhole : u % Binary64.one = 0
    · simp only [Binary64.toInt?, hvalue, hwhole, if_true, natAbs_sign, Nat.pow_eq] at h
      by_cases hmax : u / Binary64.one < 2 ^ 63
      · rw [if_pos hmax] at h
        exact .inl ⟨_, hmax, (Nat.div_mul_cancel (Nat.dvd_of_mod_eq_zero hwhole)).symm,
          (Option.some.inj h).symm⟩
      · rw [if_neg hmax] at h
        exact .inr
          ⟨(Option.some.inj h).symm, fun _ => Nat.mul_le_of_le_div _ _ _ (Nat.not_lt.1 hmax)⟩
    · simp only [Binary64.toInt?, hvalue, hwhole, if_false, hfinite, if_true] at h
      cases h
      exact .inr ⟨rfl, fun hzero => absurd hzero hwhole⟩

/-- A decimal that starts with a digit is a number. -/
theorem isNumeral_decimal (neg : Bool) (c : Char) (cs : List Char) {d : Decimal}
    (hc : c.isDigit = true) (hcs : ∀ d ∈ cs, isNumberChar d = true)
    (hread : Decimal.read? ((if neg then ['-'] else []) ++ c :: cs) = some d)
    (hn : Number.ofBinary64? (Binary64.ofDecimal d) = some n) :
    IsNumeral ((if neg then ['-'] else []) ++ c :: cs) n :=
  (scans_number hc hcs (by rw [Binary64.read?, hread])).isNumeral hn

/-- Digits alone are a number. -/
theorem isNumeral_digits (neg : Bool) {w : ℕ}
    (h : Number.ofBinary64? (Binary64.ofDecimal ⟨neg, w, 0⟩) = some n) :
    IsNumeral ((if neg then ['-'] else []) ++ Nat.toDigits 10 w) n := by
  have hread :=
    Decimal.read?_whole neg (Nat.toDigits_ne_nil (b := 10) (n := w)) Json.isDigit_toDigits
  obtain ⟨c, r, hdigits⟩ := List.exists_cons_of_ne_nil (Nat.toDigits_ne_nil (b := 10) (n := w))
  have hall := Json.isDigit_toDigits (n := w)
  rw [← Decimal.digitChars, Decimal.ofDigits_digitChars, Decimal.digitChars] at hread
  rw [hdigits] at hread hall ⊢
  obtain ⟨hc, hr⟩ := List.forall_mem_cons.1 hall
  exact isNumeral_decimal neg c r hc (fun d hd => isNumberChar_of_isDigit (hr d hd)) hread h

theorem isNumeral_whole {w : ℕ} (hmax : w < 2 ^ 63) (hx : x.value = .finite neg (w * Binary64.one))
    (hn : Number.ofBinary64? x = some (.int (if neg then -(w : ℤ) else w))) :
    IsNumeral (Operand.value (.number (.int (if neg then -(w : ℤ) else w)))).chars
      (.int (if neg then -(w : ℤ) else w)) := by
  rw [chars_number, Json.toList_numberText_int]
  rcases Nat.eq_zero_or_pos w with rfl | hw
  · have hzero : (if neg then -((0 : ℕ) : ℤ) else (0 : ℕ)) = 0 := by cases neg <;> rfl
    rw [hzero]
    exact isNumeral_digits false (ofBinary64?_zero false)
  · have hneg : decide ((if neg then -(w : ℤ) else w) < 0) = neg := by
      cases neg <;> simp [hw]
    rw [hneg, natAbs_sign]
    refine isNumeral_digits neg ?_
    rwa [Binary64.ofDecimal_whole neg hw hmax, Binary64.round_of_value hx]

/-- A number with a point is read again if it is shown without an exponent. -/
theorem isNumeral_positional {u : ℕ} (hx : x.value = .finite neg u) (hu : u ≠ 0)
    (hpositional : Decimal.Style.document.isPositional x.shortest.lead = true)
    (hn : Number.ofBinary64? x = some n) :
    IsNumeral (Operand.value (.number (.float x))).chars n := by
  obtain ⟨hreads, -⟩ := Binary64.ofDecimal_shortest hx hu
  have hdigits : x.shortest.digits ≠ 0 := (Binary64.units_ofDecimal (by rw [hreads, hx]) hu).1
  obtain ⟨whole, fraction, htext, hne, hwhole, hfraction, hvalue⟩ :=
    Decimal.text_parts hdigits hpositional rfl
  have hread := Decimal.read?_point x.shortest.neg hne hwhole hfraction
  obtain ⟨c, r, rfl⟩ := List.exists_cons_of_ne_nil hne
  obtain ⟨hc, hr⟩ := List.forall_mem_cons.1 hwhole
  rw [chars_number, Json.toList_numberText_float hx, htext]
  refine isNumeral_decimal _ c _ hc
    (List.forall_mem_append.2 ⟨fun d hd => isNumberChar_of_isDigit (hr d hd),
      List.forall_mem_cons.2 ⟨rfl, fun d hd => isNumberChar_of_isDigit (hfraction d hd)⟩⟩) hread ?_
  rwa [hvalue, hreads]

theorem scientific_parts {ds : List Char} (hne : ds ≠ []) (hds : ∀ c ∈ ds, c.isDigit = true)
    (lead : ℤ) (plus : Bool) :
    ∃ c cs rest, Decimal.scientific ds lead plus = c :: cs ++ 'e' :: rest ∧ c.isDigit = true ∧
      ∀ d ∈ cs, isNumberChar d = true := by
  obtain ⟨c, r, rfl⟩ := List.exists_cons_of_ne_nil hne
  obtain ⟨hc, hr⟩ := List.forall_mem_cons.1 hds
  cases r with
  | nil => exact ⟨c, [], _, by simp [Decimal.scientific]; rfl, hc, nofun⟩
  | cons d r =>
    refine ⟨c, '.' :: d :: r, _, by simp [Decimal.scientific]; rfl, hc,
      List.forall_mem_cons.2 ⟨rfl, fun e he => ?_⟩⟩
    exact isNumberChar_of_isDigit (hr e he)

/-- and not if it is shown with one. -/
theorem not_isNumeral_scientific {u : ℕ} (hx : x.value = .finite neg u) (hu : u ≠ 0)
    (hscientific : Decimal.Style.document.isPositional x.shortest.lead = false) :
    ¬ IsNumeral (Operand.value (.number (.float x))).chars n := by
  obtain ⟨hreads, -⟩ := Binary64.ofDecimal_shortest hx hu
  have hdigits : x.shortest.digits ≠ 0 := (Binary64.units_ofDecimal (by rw [hreads, hx]) hu).1
  obtain ⟨c, cs, rest, htext, hc, hcs⟩ := scientific_parts
    (Nat.toDigits_ne_nil (b := 10) (n := x.shortest.digits)) Json.isDigit_toDigits
      x.shortest.lead true
  have hshown : x.shortest.text .document =
      (if x.shortest.neg then ['-'] else []) ++ c :: cs ++ 'e' :: rest := by
    rw [List.append_assoc, ← htext, Decimal.text, if_neg hdigits]
    exact congrArg _ (if_neg (Bool.eq_false_iff.1 hscientific))
  rw [chars_number, Json.toList_numberText_float hx, hshown]
  exact not_isNumeral_exponent _ hc hcs

/-- **A number that was read is read again the way it is shown, exactly if it is an integer or of
moderate size.** -/
theorem shown_isNumeral_iff (h : IsNumeral cs n) :
    (∃ m, IsNumeral (Operand.value (.number n)).chars m ∧ m.same n = true) ↔ n.IsModerate := by
  obtain ⟨pos, x, -, hn⟩ := isNumeral_iff.1 h
  obtain ⟨neg, u, hx, ⟨w, hmax, hu, rfl⟩ | ⟨rfl, hfloat⟩⟩ := ofBinary64?_cases hn
  · rw [hu] at hx
    exact iff_of_true ⟨_, isNumeral_whole hmax hx hn, decide_eq_true rfl⟩ trivial
  have hu := Binary64.ne_zero_of_not_whole hfloat
  have hmoderate : (Number.float x).IsModerate ↔
      Decimal.Style.document.isPositional x.shortest.lead = true := by
    rw [Binary64.isPositional_iff hx hfloat]
    constructor
    · rintro ⟨neg', u', hx', hsize⟩
      cases hx.symm.trans hx'
      exact hsize
    · exact fun hsize => ⟨neg, u, hx, hsize⟩
  rw [hmoderate]
  constructor
  · rintro ⟨m, hm, -⟩
    by_contra hscientific
    exact not_isNumeral_scientific hx hu (Bool.eq_false_iff.2 hscientific) hm
  · intro hpositional
    have hself : x.eq x = true := Binary64.eq_self (exists_ofBinary64?_iff.1 ⟨_, hn⟩)
    exact ⟨_, isNumeral_positional hx hu hpositional hn, hself⟩

end Guard

/-! ### Numbers of all sizes -/

namespace Samples

open Guard

/-- A number with zeros at its end is shown without them, and read again. -/
theorem eighth_read_again :
    ∃ n, IsNumeral "-0.12500".toList n ∧ ∃ m, IsNumeral (Operand.value (.number n)).chars m ∧
      m.same n = true := by
  have hnumeral : IsNumeral "-0.12500".toList (.float (Binary64.ofDecimal ⟨true, 12500, -5⟩)) :=
    isNumeral_decimal true '0' ".12500".toList (d := ⟨true, 12500, -5⟩) rfl
      (List.all_eq_true.1 rfl) (by decide +kernel) (by decide +kernel)
  refine ⟨_, hnumeral, (shown_isNumeral_iff hnumeral).2 ⟨true, 2 ^ 1071, ?_⟩⟩
  decide +kernel

/-- Small numbers and large ones are shown with an exponent, which is not read. -/
theorem millionth_not_read :
    (∃ n, IsNumeral "0.000001".toList n ∧ (Operand.value (.number n)).chars = "1e-6".toList ∧
      ∀ m, ¬ IsNumeral (Operand.value (.number n)).chars m) ∧
    ∃ n, IsNumeral "100000000000000000000".toList n ∧
      (Operand.value (.number n)).chars = "1e+20".toList ∧
      ∀ m, ¬ IsNumeral (Operand.value (.number n)).chars m := by
  have hexponent {rest : List Char} {m : Number} : ¬ IsNumeral ('1' :: 'e' :: rest) m :=
    not_isNumeral_exponent false (show '1'.isDigit = true from rfl) (List.forall_mem_nil _)
  have hsmall : (Operand.value (.number (.float (Binary64.ofDecimal ⟨false, 1, -6⟩)))).chars =
      "1e-6".toList := by
    decide +kernel
  have hlarge : (Operand.value (.number (.float (Binary64.ofDecimal ⟨false, 10 ^ 20, 0⟩)))).chars =
      "1e+20".toList := by
    decide +kernel
  refine ⟨⟨_, ?_, hsmall, fun m => ?_⟩, ⟨_, ?_, hlarge, fun m => ?_⟩⟩
  · exact isNumeral_decimal false '0' ".000001".toList (d := ⟨false, 1, -6⟩) rfl
      (List.all_eq_true.1 rfl) (by decide +kernel) (by decide +kernel)
  · rw [hsmall]
    exact hexponent
  · exact isNumeral_decimal false '1' "00000000000000000000".toList (d := ⟨false, 10 ^ 20, 0⟩) rfl
      (List.all_eq_true.1 rfl) (by decide +kernel) (by decide +kernel)
  · rw [hlarge]
    exact hexponent

end Samples

end Parley

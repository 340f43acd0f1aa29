import Mathlib.Data.String.Basic
import Parley.Guard.Value
import Parley.Proofs.Guard.EdgeGuards
import Parley.Proofs.Guard.Numerals

/-!
# Texts in lower case, and texts without blanks

Lower case leaves blanks, digits and signs where they are; so a text in lower case is trimmed as
before and writes the same number.  A text without blanks at its ends is not trimmed any more, and
the text of a number has no blanks at all.

* `Text.trim_trim`, `Text.trim_eq_self`: texts that stay as they are;
* `Text.trim_map_toLower`, `Guard.numberOfText?_congr`: what does not depend on the case of letters;
* `Json.trim_numberText`: numbers.
-/

namespace Parley

variable {c d : Char} {s t : String} {cs : List Char}

/-! ### Trimming -/

namespace Text

/-- No blanks are in a text. -/
def NoBlanks (cs : List Char) : Prop := ∀ c ∈ cs, isBlank c = false

theorem trim_trim (s : String) : trim (trim s) = trim s := by
  have hfront : (trim s).toList.dropWhile isBlank = (trim s).toList := by
    cases hcs : (trim s).toList with
    | nil => rfl
    | cons c r => rw [List.dropWhile_cons, isBlank_of_trim_cons hcs, if_neg Bool.false_ne_true]
  rw [← String.toList_inj, toList_trim, hfront, toList_trim, List.rdropWhile_idempotent]

theorem trim_eq_self (h : NoBlanks s.toList) : trim s = s := by
  have hfront : s.toList.dropWhile isBlank = s.toList :=
    List.dropWhile_eq_self_iff.2 fun hl => Bool.eq_false_iff.1 (h _ (List.getElem_mem hl))
  rw [← String.toList_inj, toList_trim, hfront]
  exact List.rdropWhile_eq_self_iff.2 fun hl => Bool.eq_false_iff.1 (h _ (List.getLast_mem hl))

/-! ### Lower case -/

/-- What says the same of all letters does not see their case. -/
theorem toLower_congr {α : Type} {f : Char → α} {a : α} (h : ∀ c : Char, c.isAlpha = true → f c = a)
    (c : Char) :
    f c.toLower = f c := by
  by_cases hc : c.isAlpha = true
  · rw [h c hc, h _ ((Char.isAlpha_toLower_eq_isAlpha c).trans hc)]
  · rw [Char.toLower_eq_of_not_isUpper]
    intro hupper
    rw [Char.isAlpha, hupper, Bool.true_or] at hc
    exact hc rfl

theorem toLower_eq_iff (hd : d.isAlpha = false) : c.toLower = d ↔ c = d := by
  have hsame : decide (c.toLower = d) = decide (c = d) := by
    refine toLower_congr (f := fun c => decide (c = d)) (a := false)
      (fun c hc => decide_eq_false ?_) c
    rintro rfl
    rw [hd] at hc
    cases hc
  rwa [decide_eq_decide] at hsame

theorem isBlank_of_isAlpha (h : c.isAlpha = true) : isBlank c = false :=
  Guard.isBlank_of_isNameStart (by simp [Guard.isNameStart, isAlphabetic, h])

theorem isDigit_of_isAlpha (h : c.isAlpha = true) : c.isDigit = false := by
  simp only [Char.isAlpha, Char.isUpper, Char.isLower, Bool.or_eq_true, Bool.and_eq_true,
    decide_eq_true_eq] at h
  change (65 ≤ c.toNat ∧ c.toNat ≤ 90) ∨ (97 ≤ c.toNat ∧ c.toNat ≤ 122) at h
  rw [← Bool.not_eq_true, Char.isDigit, Bool.and_eq_true, decide_eq_true_eq, decide_eq_true_eq]
  change ¬ (48 ≤ c.toNat ∧ c.toNat ≤ 57)
  omega

theorem isBlank_of_isDigit (h : c.isDigit = true) : isBlank c = false := by
  have hstart : Guard.startsNumber c [] = true := by rw [Guard.startsNumber, h, Bool.true_or]
  exact (Guard.startsNumber_apart hstart).1

theorem isBlank_comp_toLower : isBlank ∘ Char.toLower = isBlank :=
  funext (toLower_congr fun _ => isBlank_of_isAlpha)

theorem isDigit_comp_toLower : Char.isDigit ∘ Char.toLower = Char.isDigit :=
  funext (toLower_congr fun _ => isDigit_of_isAlpha)

theorem toLower_comp_toLower : Char.toLower ∘ Char.toLower = Char.toLower :=
  funext Char.toLower_toLower_eq_toLower

theorem trim_map_toLower (s : String) : trim (s.map Char.toLower) = (trim s).map Char.toLower := by
  rw [← String.toList_inj, toList_trim, String.toList_map, String.toList_map, toList_trim,
    List.dropWhile_map, isBlank_comp_toLower, List.rdropWhile, List.rdropWhile, ← List.map_reverse,
    List.dropWhile_map, isBlank_comp_toLower, List.map_reverse]

/-- A text that is the same in any case as what is left of it has no blanks around it. -/
theorem trim_eq_of_map_toLower (h : (trim s).map Char.toLower = s.map Char.toLower) :
    trim s = s := by
  have hlength : (trim s).toList.length = s.toList.length := by
    rw [← List.length_map (f := Char.toLower), ← String.toList_map, h, String.toList_map,
      List.length_map]
  have hpart : (trim s).toList <:+: s.toList := by
    rw [toList_trim]
    exact (List.rdropWhile_prefix _ _).isInfix.trans (List.dropWhile_suffix _).isInfix
  exact String.toList_inj.1 (hpart.eq_of_length hlength)

end Text

/-! ### Numbers -/

open Text (isDigit_comp_toLower toLower_eq_iff toLower_congr)

theorem Decimal.splitSign_map_toLower (cs : List Char) :
    splitSign (cs.map Char.toLower) = ((splitSign cs).1, (splitSign cs).2.map Char.toLower) := by
  cases cs with
  | nil => rfl
  | cons c r =>
    by_cases hminus : c = '-'
    · subst hminus
      rfl
    by_cases hplus : c = '+'
    · subst hplus
      rfl
    have hsplit {c : Char} (r : List Char) (hminus : c ≠ '-') (hplus : c ≠ '+') :
        splitSign (c :: r) = (false, c :: r) := by
      unfold splitSign
      split <;> simp_all
    rw [hsplit r hminus hplus, List.map_cons, hsplit]
    · rwa [Ne, toLower_eq_iff rfl]
    · rwa [Ne, toLower_eq_iff rfl]

theorem Decimal.ofDigits_map_toLower (cs : List Char) :
    ofDigits (cs.map Char.toLower) = ofDigits cs := by
  have hvalue (c : Char) : digitValue c.toLower = digitValue c := by
    refine toLower_congr (a := 0) (fun c hc => ?_) c
    rw [digitValue, Text.isDigit_of_isAlpha hc, if_neg Bool.false_ne_true]
  simp only [ofDigits, List.foldl_map, hvalue]

theorem Decimal.toLower_eq_e_iff : c.toLower = 'e' ∨ c.toLower = 'E' ↔ c = 'e' ∨ c = 'E' := by
  by_cases hupper : c.isUpper = true
  · have hall : ∀ n < 128, ((Char.ofNat n).toLower = 'e' ∨ (Char.ofNat n).toLower = 'E' ↔
        Char.ofNat n = 'e' ∨ Char.ofNat n = 'E') := by decide
    rw [← Char.ofNat_toNat c]
    refine hall _ ?_
    rw [Char.isUpper, decide_eq_true_eq] at hupper
    change 65 ≤ c.toNat ∧ c.toNat ≤ 90 at hupper
    omega
  · rw [Char.toLower_eq_of_not_isUpper hupper]

theorem Decimal.readExponent?_map_toLower (cs : List Char) :
    readExponent? (cs.map Char.toLower) = readExponent? cs := by
  cases cs with
  | nil => rfl
  | cons c r =>
    simp only [List.map_cons, readExponent?, toLower_eq_e_iff, splitSign_map_toLower,
      ofDigits_map_toLower, List.all_map, isDigit_comp_toLower, Ne, List.map_eq_nil_iff]

theorem Decimal.read?_map_toLower (cs : List Char) :
    Decimal.read? (cs.map Char.toLower) = Decimal.read? cs := by
  unfold read?
  simp only [splitSign_map_toLower, List.takeWhile_map, List.dropWhile_map, isDigit_comp_toLower]
  generalize (splitSign cs).2 = r
  cases r.dropWhile Char.isDigit with
  | nil => simp [ofDigits_map_toLower]
  | cons c rest =>
    by_cases hc : c = '.'
    · subst hc
      have hpoint : Char.toLower '.' = '.' := rfl
      simp [hpoint, List.takeWhile_map, List.dropWhile_map, isDigit_comp_toLower, ← List.map_append,
        ofDigits_map_toLower, readExponent?_map_toLower]
    · have hc' : c.toLower ≠ '.' := by rwa [Ne, toLower_eq_iff rfl]
      have hexponent := readExponent?_map_toLower (c :: rest)
      rw [List.map_cons] at hexponent
      simp [hc, hc', ofDigits_map_toLower, hexponent]

theorem Binary64.read?_map_toLower (cs : List Char) :
    Binary64.read? (cs.map Char.toLower) = Binary64.read? cs := by
  simp only [read?, Decimal.read?_map_toLower, Decimal.splitSign_map_toLower, List.map_map,
    Text.toLower_comp_toLower]

/-- **Texts that are the same but for blanks around them and for the case of letters write the same
number.** -/
theorem Guard.numberOfText?_congr
    (h : (Text.trim s).map Char.toLower = (Text.trim t).map Char.toLower) :
    numberOfText? s = numberOfText? t := by
  have hchars : (Text.trim s).toList.map Char.toLower = (Text.trim t).toList.map Char.toLower := by
    rw [← String.toList_map, h, String.toList_map]
  rw [numberOfText?, numberOfText?, ← Binary64.read?_map_toLower, hchars,
    Binary64.read?_map_toLower]

/-! ### The text of a number -/

namespace Text.NoBlanks

theorem of_all (h : cs.all (!isBlank ·) = true) : NoBlanks cs := fun c hc => by
  simpa using List.all_eq_true.1 h c hc

theorem append {ds : List Char} (hcs : NoBlanks cs) (hds : NoBlanks ds) : NoBlanks (cs ++ ds) :=
  List.forall_mem_append.2 ⟨hcs, hds⟩

theorem of_digits (h : ∀ c ∈ cs, c.isDigit = true) : NoBlanks cs :=
  fun c hc => isBlank_of_isDigit (h c hc)

theorem replicate_zero (n : ℕ) : NoBlanks (List.replicate n '0') := fun c hc => by
  rw [List.eq_of_mem_replicate hc]
  rfl

end Text.NoBlanks

namespace Decimal

open Text (NoBlanks)

variable {ds : List Char}

theorem positional_noBlanks (hds : NoBlanks ds) (lead : Int) :
    NoBlanks (positional ds lead true) := by
  have hfront (n k : ℕ) : NoBlanks (ds.take n ++ List.replicate k '0') :=
    .append (fun c hc => hds c (List.mem_of_mem_take hc)) (.replicate_zero k)
  have hdrop (n : ℕ) : NoBlanks (ds.drop n) := fun c hc => hds c (List.mem_of_mem_drop hc)
  by_cases hlead : lead < 0
  · rw [positional, if_pos hlead]
    exact .append (.append (.of_all rfl) (.replicate_zero _)) hds
  · rw [positional, if_neg hlead]
    by_cases hfraction : ds.drop (lead.toNat + 1) = []
    · rw [if_pos hfraction, if_pos rfl]
      exact .append (hfront _ _) (.of_all rfl)
    · rw [if_neg hfraction]
      exact .append (.append (hfront _ _) (.of_all rfl)) (hdrop _)

theorem scientific_noBlanks (hds : NoBlanks ds) (lead : Int) :
    NoBlanks (scientific ds lead true) := by
  have hexponent : NoBlanks (digitChars lead.natAbs) := .of_digits Json.isDigit_toDigits
  refine .append (.append (.append ?_ (.of_all rfl)) ?_) hexponent
  · split
    · exact .of_all rfl
    · exact hds
    · rename_i d r _
      obtain ⟨hd, hr⟩ := List.forall_mem_cons.1 hds
      exact List.forall_mem_cons.2 ⟨hd, List.forall_mem_cons.2 ⟨rfl, hr⟩⟩
  · split_ifs <;> exact .of_all rfl

theorem text_noBlanks (d : Decimal) : NoBlanks (d.text .document) := by
  have hdigits : NoBlanks (digitChars d.digits) := .of_digits Json.isDigit_toDigits
  refine .append (by split_ifs <;> exact .of_all rfl) ?_
  split_ifs
  · exact .of_all rfl
  · exact positional_noBlanks hdigits _
  · exact scientific_noBlanks hdigits _

end Decimal

theorem Json.trim_numberText (n : Number) : Text.trim (numberText n) = numberText n := by
  refine Text.trim_eq_self ?_
  cases n with
  | int i =>
    rw [toList_numberText_int]
    exact Text.NoBlanks.append (by split_ifs <;> exact .of_all rfl) (.of_digits isDigit_toDigits)
  | float x =>
    cases hx : x.value with
    | finite neg u =>
      rw [toList_numberText_float hx]
      exact x.shortest.text_noBlanks
    | infinite neg | nan =>
      have hnone : numberText (.float x) = "null" := by
        simp [numberText, Number.text?, Binary64.isFinite, hx]
      rw [hnone]
      exact Text.NoBlanks.of_all rfl

end Parley

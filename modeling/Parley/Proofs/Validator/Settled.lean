import Parley.Proofs.Guard.Comparing
import Parley.Proofs.Text.Lowered
import Parley.Proofs.Validator.Integers

/-!
# Answers that are given again

What a validator makes of an answer is accepted again and stays as it is, with two exceptions among
the options of `one_of`.  An option with blanks around it is not chosen by itself, since the answer
is trimmed and the option is not.  And texts are compared as texts with the options that are texts,
but numbers as numbers: the number that a text has chosen may choose an option before it that is a
text and writes the same number.

* `acceptNumber_again`, `acceptRange_again` and the like: the validators that settle;
* `Unsettled`, `acceptOption_again_iff`: options;
* `accept_again_iff`: all validators.
-/

namespace Parley

variable {x y z : Binary64} {j w a b : Json} {s t : String} {n m : Number}

theorem Binary64.eq_iff : x.eq y = true ↔ ∃ r, x.rank = some r ∧ y.rank = some r := by
  unfold Binary64.eq
  cases x.rank <;> cases y.rank <;> simp [eq_comm]

theorem Binary64.eq_trans (hxy : x.eq y = true) (hyz : y.eq z = true) : x.eq z = true := by
  obtain ⟨r, hx, hy⟩ := eq_iff.1 hxy
  obtain ⟨r', hy', hz⟩ := eq_iff.1 hyz
  obtain rfl := Option.some.inj (hy.symm.trans hy')
  exact eq_iff.2 ⟨r, hx, hz⟩

theorem Binary64.eq_symm (h : x.eq y = true) : y.eq x = true := by
  obtain ⟨r, hx, hy⟩ := eq_iff.1 h
  exact eq_iff.2 ⟨r, hy, hx⟩

namespace Validator

open Guard (parseCall IsLiteral numberOfText? number? equal isNumber)

/-! ### Numbers -/

theorem numberOf_eq_ok_iff : numberOf j = .ok x ↔ number? j = some x := by
  unfold numberOf
  cases number? j <;> simp

/-- The number that is stored for a value is as large as the value, and is stored as it is. -/
theorem numberOf_again (hfinite : ∀ n, j = .number n → n.toBinary64.isFinite = true)
    (h : numberOf j = .ok x) :
    ∃ n, ofNumber x = .number n ∧ n.toBinary64.rank = x.rank ∧
      ofNumber n.toBinary64 = .number n := by
  have hx : x.isFinite = true := by
    cases j with
    | number n =>
      cases h
      exact hfinite n rfl
    | string s =>
      have hread := numberOf_eq_ok_iff.1 h
      rw [number?, numberOfText?, Option.filter_eq_some_iff] at hread
      exact hread.2
    | null | bool | array | object => cases h
  obtain ⟨n, hn⟩ := Guard.exists_ofBinary64?_iff.2 hx
  obtain ⟨hrank, hself⟩ := Number.toBinary64_of_ofBinary64? hn
  exact ⟨n, ofNumber_eq_number_iff.2 hn, hrank, ofNumber_eq_number_iff.2 hself⟩

theorem acceptNumber_again (hfinite : ∀ n, j = .number n → n.toBinary64.isFinite = true)
    (h : (numberOf j).map ofNumber = .ok w) : (numberOf w).map ofNumber = .ok w := by
  obtain ⟨x, hx, rfl⟩ := map_eq_ok.1 h
  obtain ⟨n, hn, -, hself⟩ := numberOf_again hfinite hx
  rw [hn]
  exact congrArg Except.ok hself

theorem acceptRange_again {lo hi : Binary64}
    (hfinite : ∀ n, j = .number n → n.toBinary64.isFinite = true)
    (h : acceptRange lo hi j = .ok w) : acceptRange lo hi w = .ok w := by
  obtain ⟨x, hx, hlow, hhigh, rfl⟩ := acceptRange_eq_ok_iff.1 h
  obtain ⟨n, hn, hrank, hself⟩ := numberOf_again hfinite hx
  rw [hn]
  refine acceptRange_eq_ok_iff.2 ⟨_, rfl, ?_, ?_, hself⟩
  · rwa [Binary64.lt, hrank]
  · rwa [Binary64.lt, hrank]

theorem acceptInteger_again (hfinite : ∀ n, j = .number n → n.toBinary64.isFinite = true)
    (h : acceptInteger j = .ok w) : acceptInteger w = .ok w := by
  obtain ⟨x, hx, hwhole, rfl⟩ := acceptInteger_eq_ok_iff.1 h
  obtain ⟨n, hn, -, hself⟩ := numberOf_again hfinite hx
  rw [hn]
  refine acceptInteger_eq_ok_iff.2 ⟨_, rfl, ?_, hself⟩
  obtain ⟨i, rfl, hmax, -⟩ | rfl := Number.fits_of_ofBinary64? (ofNumber_eq_number_iff.1 hn)
  · rw [Number.toBinary64, Number.toInt?_ofInt (hmax.le.trans (by decide))]
    rfl
  · exact hwhole

/-! ### Texts -/

theorem acceptLength_again {lo : Binary64} {hi : Option Binary64}
    (h : acceptLength lo hi j = .ok w) :
    acceptLength lo hi w = .ok w := by
  cases j with
  | string s =>
    have hw : w = .string (Text.trim s) := by
      unfold acceptLength at h
      dsimp only at h
      split_ifs at h
      split at h
      · split_ifs at h
        exact (Except.ok.inj h).symm
      · exact (Except.ok.inj h).symm
    rw [← h, hw]
    simp only [acceptLength, Text.trim_trim]
  | null | bool | number | array | object => cases h

theorem acceptPattern_again {p : Pattern} (h : acceptPattern p j = .ok w) :
    acceptPattern p w = .ok w := by
  obtain ⟨text, htext, h⟩ := bind_eq_ok.1 h
  split_ifs at h with hmatch
  have htrim : Text.trim text = text := by
    cases j with
    | string s =>
      cases htext
      exact Text.trim_trim s
    | number n =>
      cases htext
      exact Json.trim_numberText n
    | null | bool | array | object => cases htext
  cases h
  refine bind_eq_ok.2 ⟨text, ?_, if_pos hmatch⟩
  rw [matchedText, htrim]

theorem acceptBoolean_again (h : acceptBoolean j = .ok w) : acceptBoolean w = .ok w := by
  cases j with
  | bool b =>
    cases h
    rfl
  | string s =>
    simp only [acceptBoolean] at h
    split_ifs at h <;> cases h <;> rfl
  | null | number | array | object => cases h

/-- An address stays one in lower case. -/
theorem isAddress_map_toLower (cs : List Char) :
    isAddress (cs.map Char.toLower) = isAddress cs := by
  have hat : (fun c : Char => decide (c ≠ '@')) ∘ Char.toLower = fun c => decide (c ≠ '@') :=
    funext fun c => by simp only [Function.comp_apply, Ne, Text.toLower_eq_iff (d := '@') rfl]
  have hcontains {d : Char} (hd : d.isAlpha = false) (cs : List Char) :
      (cs.map Char.toLower).contains d = cs.contains d := by
    rw [Bool.eq_iff_iff, List.contains_iff_mem, List.contains_iff_mem, List.mem_map]
    simp only [Text.toLower_eq_iff hd, exists_eq_right]
  have hpoint (c? : Option Char) : (c?.map Char.toLower != some '.') = (c? != some '.') := by
    cases c? with
    | none => rfl
    | some c =>
      have hpoint : (c.toLower = '.') = (c = '.') := propext (Text.toLower_eq_iff rfl)
      simp [bne, hpoint]
  unfold isAddress
  simp only [List.takeWhile_map, List.dropWhile_map, hat, List.any_map, Text.isBlank_comp_toLower]
  cases cs.dropWhile fun c => decide (c ≠ '@') with
  | nil => rfl
  | cons c domain =>
    have hats := hcontains (d := '@') rfl domain
    have hpoints := hcontains (d := '.') rfl domain
    simp only [List.map_cons, hats, hpoints, hpoint, List.head?_map, List.getLast?_map,
      List.isEmpty_map]

theorem acceptEmail_again (h : acceptEmail j = .ok w) : acceptEmail w = .ok w := by
  cases j with
  | string s =>
    simp only [acceptEmail] at h
    split_ifs at h with haddress
    cases h
    have htrim : Text.trim ((Text.trim s).map Char.toLower) = (Text.trim s).map Char.toLower := by
      rw [Text.trim_map_toLower, Text.trim_trim]
    simp only [acceptEmail, htrim, String.toList_map, isAddress_map_toLower, haddress, if_true,
      String.map_map, Text.toLower_comp_toLower]
  | null | bool | number | array | object => cases h

/-! ### Options -/

theorem sameIgnoringCase_iff : sameIgnoringCase s t = true ↔
    s.map Char.toLower = t.map Char.toLower := by
  rw [sameIgnoringCase, beq_iff_eq]

/-- Beside a number, a value chooses an option if both count as numbers, and these are equal. -/
theorem chooses_iff_of_isNumber (h : (isNumber j || isNumber a) = true) :
    chooses j a = true ↔ ∃ x y, number? j = some x ∧ number? a = some y ∧ x.eq y = true := by
  have hchooses : chooses j a = equal j a := by
    cases j <;> cases a <;> first | rfl | cases h
  rw [hchooses]
  unfold equal
  rw [if_pos h]
  cases number? j <;> cases number? a <;> simp

/-- Texts that are the same but for blanks around them and for the case of letters choose the same
options. -/
theorem chooses_text_congr (ha : IsLiteral a)
    (h : (Text.trim s).map Char.toLower = (Text.trim t).map Char.toLower) :
    chooses (.string s) a = chooses (.string t) a := by
  cases ha with
  | text o => rw [chooses, chooses, sameIgnoringCase, sameIgnoringCase, h]
  | number _ =>
    have hnumber : number? (.string s) = number? (.string t) := Guard.numberOfText?_congr h
    rw [Bool.eq_iff_iff, chooses_iff_of_isNumber rfl, chooses_iff_of_isNumber rfl, hnumber]
  | null =>
    have hnever (s : String) : chooses (.string s) .null = false := rfl
    rw [hnever, hnever]
  | bool b =>
    have hnever (s : String) : chooses (.string s) (.bool b) = false := rfl
    rw [hnever, hnever]

/-- Why a value does not choose the option that it has been stored as.  The option has blanks around
it; or it is a number that a text has chosen, and a text before it writes the same number. -/
def Unsettled (options : List Json) (j w : Json) : Prop :=
  (∃ o, w = .string o ∧ Text.trim o ≠ o) ∨
    ∃ s n t x, j = .string s ∧ w = .number n ∧
      .string t ∈ options.takeWhile (fun o => !chooses j o) ∧
      numberOfText? t = some x ∧ n.toBinary64.eq x = true

theorem acceptOption_eq_ok_iff {options : List Json} :
    acceptOption options j = .ok w ↔ options.find? (chooses j) = some w := by
  unfold acceptOption
  cases options.find? (chooses j) <;> simp

/-- What has chosen null or a truth value is that value. -/
theorem eq_of_chooses (h : chooses j w = true) (hw : w = .null ∨ ∃ b, w = .bool b) : j = w := by
  obtain rfl | ⟨b, rfl⟩ := hw
  · cases j with
    | null => rfl
    | bool | number | string | array | object => cases h
  · cases j with
    | bool c =>
      have hsame : (c == b) = true := h
      rw [beq_iff_eq.1 hsame]
    | null | number | string | array | object => cases h

/-- A text chooses itself if no blanks are around it. -/
theorem chooses_self_iff : chooses (.string s) (.string s) = true ↔ Text.trim s = s := by
  have hchooses : chooses (.string s) (.string s) = sameIgnoringCase (Text.trim s) s := rfl
  rw [hchooses, sameIgnoringCase_iff]
  constructor
  · exact Text.trim_eq_of_map_toLower
  · intro htrim
    rw [htrim]

/-- A number that has chosen a text chooses what the text chooses. -/
theorem chooses_of_text (ha : IsLiteral a) (h : chooses (.number n) (.string s) = true)
    (hchosen : chooses (.string s) a = true) : chooses (.number n) a = true := by
  obtain ⟨x, y, hx, hy, hxy⟩ := (chooses_iff_of_isNumber rfl).1 h
  cases ha with
  | text t =>
    have hsame : (Text.trim s).map Char.toLower = t.map Char.toLower :=
      sameIgnoringCase_iff.1 hchosen
    have htrim : (Text.trim s).map Char.toLower = (Text.trim t).map Char.toLower := by
      rw [← Text.trim_map_toLower t, ← hsame, Text.trim_map_toLower, Text.trim_trim]
    exact (chooses_iff_of_isNumber rfl).2
      ⟨x, y, hx, (Guard.numberOfText?_congr htrim).symm.trans hy, hxy⟩
  | number _ =>
    obtain ⟨y', z, hy', hz, hyz⟩ := (chooses_iff_of_isNumber rfl).1 hchosen
    obtain rfl := Option.some.inj (hy.symm.trans hy')
    exact (chooses_iff_of_isNumber rfl).2 ⟨x, z, hx, hz, Binary64.eq_trans hxy hyz⟩
  | null | bool => cases hchosen

/-- What has chosen a number chooses what the number chooses, unless only texts are compared; -/
theorem chooses_of_number (hnumber : (isNumber j || isNumber a) = true)
    (h : chooses j (.number m) = true) (hchosen : chooses (.number m) a = true) :
    chooses j a = true := by
  obtain ⟨x, y, hx, hy, hxy⟩ := (chooses_iff_of_isNumber (Bool.or_true _)).1 h
  obtain ⟨y', z, hy', hz, hyz⟩ := (chooses_iff_of_isNumber rfl).1 hchosen
  obtain rfl := Option.some.inj (hy.symm.trans hy')
  exact (chooses_iff_of_isNumber hnumber).2 ⟨x, z, hx, hz, Binary64.eq_trans hxy hyz⟩

/-- and the number chooses itself. -/
theorem chooses_number_self (h : chooses j (.number m) = true) :
    chooses (.number m) (.number m) = true := by
  obtain ⟨x, y, -, hy, hxy⟩ := (chooses_iff_of_isNumber (Bool.or_true _)).1 h
  exact (chooses_iff_of_isNumber rfl).2 ⟨y, y, hy, hy, Binary64.eq_trans (Binary64.eq_symm hxy) hxy⟩

/-- A text that has been chosen chooses no option that has not been. -/
theorem not_chooses_of_text (h : chooses j (.string t) = true) (ht : Text.trim t = t)
    (ha : IsLiteral a) (hnot : chooses j a = false) : chooses (.string t) a = false := by
  cases j with
  | string s =>
    have hsame : (Text.trim s).map Char.toLower = t.map Char.toLower := sameIgnoringCase_iff.1 h
    rw [← hnot]
    exact chooses_text_congr ha (by rw [ht, hsame])
  | number n =>
    by_contra htrue
    rw [chooses_of_text ha h (Bool.eq_true_of_not_eq_false htrue)] at hnot
    cases hnot
  | null | bool | array | object => cases h

/-- A number that has been chosen may choose another option, but only if a text has chosen the
number, and the other option is a text. -/
theorem exists_texts_of_number (h : chooses j (.number m) = true) (hnot : chooses j a = false)
    (hchosen : chooses (.number m) a = true) :
    ∃ s t x, j = .string s ∧ a = .string t ∧ numberOfText? t = some x ∧
      m.toBinary64.eq x = true := by
  have hnumber : (isNumber j || isNumber a) = false := by
    by_contra hnumber
    rw [chooses_of_number (Bool.eq_true_of_not_eq_false hnumber) h hchosen] at hnot
    cases hnot
  obtain ⟨hj, ha⟩ := Bool.or_eq_false_iff.1 hnumber
  obtain ⟨x, -, hx, -⟩ := (chooses_iff_of_isNumber (Bool.or_true _)).1 h
  obtain ⟨_, y, ⟨rfl⟩, hy, hmy⟩ := (chooses_iff_of_isNumber rfl).1 hchosen
  obtain ⟨s, rfl, -⟩ := Guard.exists_text_of_number hx hj
  obtain ⟨t, rfl, ht⟩ := Guard.exists_text_of_number hy ha
  exact ⟨s, t, y, rfl, rfl, ht, hmy⟩

/-- **An option is accepted again and stays as it is, unless it is unsettled.** -/
theorem acceptOption_again_iff {options : List Json} (hoptions : ∀ a ∈ options, IsLiteral a)
    (h : acceptOption options j = .ok w) : acceptOption options w = .ok w ↔
      ¬ Unsettled options j w := by
  rw [acceptOption_eq_ok_iff] at h ⊢
  rw [find?_eq_some_iff_of_find? h]
  have hchosen : chooses j w = true := List.find?_some h
  have hw : IsLiteral w := hoptions w (List.mem_of_find?_eq_some h)
  have hbefore {a : Json} (ha : a ∈ options.takeWhile fun o => !chooses j o) :
      IsLiteral a ∧ chooses j a = false :=
    ⟨hoptions a ((List.takeWhile_prefix _).subset ha), by simpa using List.mem_takeWhile_imp ha⟩
  cases hw with
  | text o =>
    have hunsettled : Unsettled options j (.string o) ↔ Text.trim o ≠ o := by
      constructor
      · rintro (⟨_, ⟨rfl⟩, hne⟩ | ⟨_, _, _, _, -, hnumber, -⟩)
        · exact hne
        · cases hnumber
      · exact fun hne => .inl ⟨o, rfl, hne⟩
    rw [hunsettled, not_not, chooses_self_iff, and_iff_left_iff_imp]
    exact fun htrim a ha => not_chooses_of_text hchosen htrim (hbefore ha).1 (hbefore ha).2
  | @number _ m _ =>
    rw [and_iff_right (chooses_number_self hchosen)]
    constructor
    · rintro hnone (⟨_, htext, -⟩ | ⟨s, _, t, x, -, ⟨rfl⟩, ht, hx, heq⟩)
      · cases htext
      · have hnumber : chooses (.number m) (.string t) = true :=
          (chooses_iff_of_isNumber rfl).2 ⟨_, x, rfl, hx, heq⟩
        rw [hnone _ ht] at hnumber
        cases hnumber
    · intro hsettled a ha
      by_contra htrue
      obtain ⟨s, t, x, rfl, rfl, hx, heq⟩ :=
        exists_texts_of_number hchosen (hbefore ha).2 (Bool.eq_true_of_not_eq_false htrue)
      exact hsettled (.inr ⟨s, m, t, x, rfl, rfl, ha, hx, heq⟩)
  | null | bool =>
    obtain rfl := eq_of_chooses hchosen (by simp)
    refine iff_of_true ⟨hchosen, fun a ha => (hbefore ha).2⟩ ?_
    rintro (⟨_, htext, -⟩ | ⟨_, _, _, _, htext, -⟩) <;> cases htext

/-! ### All validators -/

variable {spec : String} {v : Validator} {call : Guard.Call}

/-- **What a validator makes of a value, it accepts again and leaves as it is, unless it is an
unsettled option.** -/
theorem accept_again_iff (hcompile : Rules.builtin.compile spec = .ok v)
    (hcall : parseCall spec = .ok call)
    (hfinite : ∀ n, j = .number n → n.toBinary64.isFinite = true) (h : v.accept j = .ok w) :
    v.accept w = .ok w ↔ ¬ (call.name = "one_of" ∧ Unsettled call.args j w) := by
  have hliteral := Guard.isLiteral_of_parseCall hcall
  obtain ⟨-, call', hcall', hbuiltin⟩ := compile_builtin_iff.1 hcompile
  obtain rfl : call = call' := Except.ok.inj (hcall.symm.trans hcall')
  obtain ⟨name, args⟩ := call
  obtain ⟨text, accept⟩ := v
  dsimp only at hbuiltin hliteral h ⊢
  have hother (hname : name ≠ "one_of") : ¬ (name = "one_of" ∧ Unsettled args j w) :=
    fun hone => hname hone.1
  cases hbuiltin with
  | oneOf hne => rw [acceptOption_again_iff hliteral h, eq_self, true_and]
  | range => exact iff_of_true (acceptRange_again hfinite h) (hother (by decide))
  | number => exact iff_of_true (acceptNumber_again hfinite h) (hother (by decide))
  | integer => exact iff_of_true (acceptInteger_again hfinite h) (hother (by decide))
  | length => exact iff_of_true (acceptLength_again h) (hother (by decide))
  | pattern => exact iff_of_true (acceptPattern_again h) (hother (by decide))
  | boolean => exact iff_of_true (acceptBoolean_again h) (hother (by decide))
  | email => exact iff_of_true (acceptEmail_again h) (hother (by decide))

end Validator

namespace Samples

open Validator Guard

/-- The tokens of two specifications. -/
theorem tokens_options :
    tokens "one_of('5.0', 5)".toList = .ok [(0, .name "one_of"), (6, .openParen), (7, .text "5.0"),
      (12, .comma), (14, .number (.ofInt 5)), (15, .closeParen)] ∧
    tokens "one_of(' 5 ')".toList =
        .ok [(0, .name "one_of"), (6, .openParen), (7, .text " 5 "), (12, .closeParen)] := by
  decide +kernel

/-- Texts that write five choose and are chosen. -/
theorem five_chooses :
    chooses (.int 5) (.string "5.0") = true ∧ chooses (.string "5") (.int 5) = true ∧
    chooses (.int 5) (.string " 5 ") = true := by
  decide +kernel

theorem parseCall_fives :
    parseCall "one_of('5.0', 5)" = .ok ⟨"one_of", [.string "5.0", .int 5]⟩ := by
  have hfive : IsOperand (.number (.ofInt 5)) (.value (.int 5)) :=
    isOperand_ofInt (by decide) ⟨5, 0, by decide, rfl⟩
  exact parseCall_eq_ok_iff.2
    ⟨_, tokens_options.1, .applied "one_of" (.some (.more (.text "5.0") (.one hfive)))⟩

/-- Two spellings of five, a text and a number. -/
theorem compile_fives :
    Rules.builtin.compile "one_of('5.0', 5)" =
      .ok ⟨"one_of('5.0', 5)", acceptOption [.string "5.0", .int 5]⟩ :=
  compile_builtin_iff.2 ⟨rfl, _, parseCall_fives, .oneOf (List.cons_ne_nil _ _)⟩

/-- A number chooses the text, and the text itself again. -/
theorem fives_settled :
    Rules.builtin.compile "one_of('5.0', 5)" =
      .ok ⟨"one_of('5.0', 5)", acceptOption [.string "5.0", .int 5]⟩ ∧
      parseCall "one_of('5.0', 5)" = .ok ⟨"one_of", [.string "5.0", .int 5]⟩ ∧
      acceptOption [.string "5.0", .int 5] (.int 5) = .ok (.string "5.0") ∧
      acceptOption [.string "5.0", .int 5] (.string "5.0") = .ok (.string "5.0") := by
  have hfive : acceptOption [.string "5.0", .int 5] (.int 5) = .ok (.string "5.0") :=
    acceptOption_eq_ok_iff.2 (List.find?_cons_of_pos five_chooses.1)
  have hfinite (n : Number) (hn : Json.int 5 = .number n) : n.toBinary64.isFinite = true := by
    cases hn
    exact Binary64.isFinite_ofInt (by decide)
  have hagain := accept_again_iff (w := .string "5.0") compile_fives parseCall_fives hfinite
  dsimp only at hagain
  refine ⟨compile_fives, parseCall_fives, hfive, (hagain hfive).2 ?_⟩
  rintro ⟨-, ⟨o, ho, hblanks⟩ | ⟨_, _, _, _, htext, -⟩⟩
  · cases ho
    exact hblanks rfl
  · cases htext

theorem compile_padded :
    Rules.builtin.compile "one_of(' 5 ')" =
      .ok ⟨"one_of(' 5 ')", acceptOption [.string " 5 "]⟩ := by
  have hcall : parseCall "one_of(' 5 ')" = .ok ⟨"one_of", [.string " 5 "]⟩ :=
    parseCall_eq_ok_iff.2 ⟨_, tokens_options.2, .applied "one_of" (.some (.one (.text " 5 ")))⟩
  exact compile_builtin_iff.2 ⟨rfl, _, hcall, .oneOf (List.cons_ne_nil _ _)⟩

/-- A text chooses the number, and the number then the text.  An option with blanks around it is
chosen by a number, and then is none of the options. -/
theorem options_unsettled :
    Rules.builtin.compile "one_of('5.0', 5)" =
      .ok ⟨"one_of('5.0', 5)", acceptOption [.string "5.0", .int 5]⟩ ∧
      acceptOption [.string "5.0", .int 5] (.string "5") = .ok (.int 5) ∧
      acceptOption [.string "5.0", .int 5] (.int 5) = .ok (.string "5.0") ∧
      Rules.builtin.compile "one_of(' 5 ')" = .ok ⟨"one_of(' 5 ')", acceptOption [.string " 5 "]⟩ ∧
      acceptOption [.string " 5 "] (.int 5) = .ok (.string " 5 ") ∧
      acceptOption [.string " 5 "] (.string " 5 ") = .error "must be one of:  5 " := by
  have htext : chooses (.string "5") (.string "5.0") = false := by
    refine Bool.eq_false_iff.2 fun hsame => ?_
    have hchars := congrArg String.toList (sameIgnoringCase_iff.1 hsame)
    rw [String.toList_map, String.toList_map] at hchars
    exact absurd hchars (by decide)
  have hrefused : chooses (.string " 5 ") (.string " 5 ") = false :=
    Bool.eq_false_iff.2 (chooses_self_iff.not.2 (by decide))
  refine ⟨compile_fives, acceptOption_eq_ok_iff.2 ?_, acceptOption_eq_ok_iff.2 ?_, compile_padded,
    acceptOption_eq_ok_iff.2 ?_, ?_⟩
  · rw [List.find?_cons, htext]
    exact List.find?_cons_of_pos five_chooses.2.1
  · exact List.find?_cons_of_pos five_chooses.1
  · exact List.find?_cons_of_pos five_chooses.2.2
  · rw [acceptOption, List.find?_cons, hrefused]
    rfl

end Samples

end Parley

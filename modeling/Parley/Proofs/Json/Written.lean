import Parley.Json.Printer
import Parley.Json.Token
import Parley.Proofs.Collections

/-!
# Tokens of written JSON

A string and a whole number that were written are read back as the tokens they are, whatever follows
them.

* `scanString_flatMap_escape`, `first_stringText`;
* `readWhole_toDigits`, `first_nat`;
* `scan_of_first`: a text whose first token is known.
-/

namespace Parley.Json

/-! ### Strings -/

/-- A character in a string is written after a backslash, by its number, or as it is. -/
theorem escape_cases (c : Char) :
    (∃ x, escape c = ['\\', x] ∧ x ≠ 'u' ∧ unescape? x = some c) ∨
      (c.toNat < 32 ∧ escape c = controlChars c.toNat) ∨
      (escape c = [c] ∧ c ≠ '"' ∧ c ≠ '\\' ∧ ¬ c.toNat < 32) := by
  unfold escape
  split_ifs with hquote hbackslash hline htab hreturn hbackspace hfeed hcontrol
  · exact .inl ⟨_, rfl, by decide, by rw [hquote]; rfl⟩
  · exact .inl ⟨_, rfl, by decide, by rw [hbackslash]; rfl⟩
  · exact .inl ⟨_, rfl, by decide, by rw [hline]; rfl⟩
  · exact .inl ⟨_, rfl, by decide, by rw [htab]; rfl⟩
  · exact .inl ⟨_, rfl, by decide, by rw [hreturn]; rfl⟩
  · exact .inl ⟨_, rfl, by decide, by rw [← Char.ofNat_toNat c, hbackspace]; rfl⟩
  · exact .inl ⟨_, rfl, by decide, by rw [← Char.ofNat_toNat c, hfeed]; rfl⟩
  · exact .inr (.inl ⟨hcontrol, rfl⟩)
  · exact .inr (.inr ⟨rfl, hquote, hbackslash, hcontrol⟩)

theorem hexFour?_control {n : Nat} (h : n < 32) :
    hexFour? '0' '0' (Nat.digitChar (n / 16)) (Nat.digitChar (n % 16)) = some n := by
  revert n
  decide

/-- A written character is read as one piece, which stands for it. -/
theorem scanString_escape (c : Char) :
    ∃ p, (∀ ps, joinPieces (p :: ps) = (joinPieces ps).map (c :: ·)) ∧
      ∀ r ps t, scanString r = .found ps t → scanString (escape c ++ r) = .found (p :: ps) t := by
  rcases escape_cases c with ⟨x, hescape, hx, hvalue⟩ | ⟨hcontrol, hescape⟩
    | ⟨hescape, hquote, hbackslash, hplain⟩
  · refine ⟨.char c, fun ps => rfl, fun r ps t h => ?_⟩
    rw [hescape]
    show scanString ('\\' :: x :: r) = _
    unfold scanString
    simp [hx, hvalue, h]
  · refine ⟨.unit c.toNat, fun ps => ?_, fun r ps t h => ?_⟩
    · have hlow : ¬ (0xD800 ≤ c.toNat ∧ c.toNat < 0xDC00) := by omega
      have hhigh : ¬ (0xDC00 ≤ c.toNat ∧ c.toNat < 0xE000) := by omega
      conv_lhs => unfold joinPieces
      rw [if_neg hlow, if_neg hhigh, Char.ofNat_toNat]
    · rw [hescape]
      show scanString ('\\' :: 'u' :: '0' :: '0' :: _ :: _ :: r) = _
      unfold scanString
      simp [hexFour?_control hcontrol, h]
  · refine ⟨.char c, fun ps => rfl, fun r ps t h => ?_⟩
    rw [hescape]
    show scanString (c :: r) = _
    unfold scanString
    simp [hquote, hbackslash, hplain, h]

/-- A written string is read back. -/
theorem scanString_flatMap_escape (cs rest : List Char) :
    ∃ ps, scanString (cs.flatMap escape ++ '"' :: rest) = .found ps rest ∧
      joinPieces ps = some cs := by
  induction cs with
  | nil =>
    refine ⟨[], ?_, rfl⟩
    rw [List.flatMap_nil, List.nil_append]
    unfold scanString
    exact if_pos rfl
  | cons c cs ih =>
    obtain ⟨ps, hscan, hjoin⟩ := ih
    obtain ⟨p, hpiece, hread⟩ := scanString_escape c
    refine ⟨p :: ps, ?_, by rw [hpiece, hjoin]; rfl⟩
    rw [List.flatMap_cons, List.append_assoc]
    exact hread _ _ _ hscan

theorem stringText_toList (s : String) :
    (stringText s).toList = '"' :: (s.toList.flatMap escape ++ ['"']) := by
  simp [stringText]

theorem first_stringText (s : String) (rest : List Char) :
    Token.first ((stringText s).toList ++ rest) = .token (.string (some s)) rest := by
  obtain ⟨ps, hscan, hjoin⟩ := scanString_flatMap_escape s.toList rest
  rw [stringText_toList, List.cons_append, List.append_assoc, List.singleton_append]
  show (scanString (s.toList.flatMap escape ++ '"' :: rest)).toStep _ true = _
  rw [hscan, Scan.toStep, hjoin, Option.map_some, String.ofList_toList]

/-! ### Whole numbers -/

/-- A text that does not go on with a number. -/
def EndsNumber (rest : List Char) : Prop :=
  ∀ c r, rest = c :: r → c.isDigit = false ∧ c ≠ '.' ∧ c ≠ 'e' ∧ c ≠ 'E'

theorem digitValue_digitChar {d : Nat} (h : d < 10) : Decimal.digitValue (Nat.digitChar d) = d := by
  revert d
  decide

/-- The significand after one more digit. -/
theorem readWhole_concat (ds : List Char) {d : Nat} (hd : d < 10) :
    readWhole (ds ++ [Nat.digitChar d]) =
      if (readWhole ds).dropped = 0 ∧ 10 * (readWhole ds).value + d ≤ maxSignificand then
        ⟨10 * (readWhole ds).value + d, 0⟩
      else ⟨(readWhole ds).value, (readWhole ds).dropped + 1⟩ := by
  rw [readWhole, List.foldl_append, List.foldl_cons, List.foldl_nil, digitValue_digitChar hd]
  rfl

theorem readWhole_toDigits {n : Nat} (h : n ≤ maxSignificand) :
    readWhole (Nat.toDigits 10 n) = ⟨n, 0⟩ := by
  induction n using Nat.strongRecOn with
  | ind n ih =>
    rw [Nat.toDigits_eq_if (by decide)]
    split
    · -- a single digit
      rename_i hsmall
      have hnil : readWhole [] = ⟨0, 0⟩ := rfl
      have hdigit := readWhole_concat [] hsmall
      rwa [hnil, List.nil_append, Nat.mul_zero, Nat.zero_add, if_pos ⟨rfl, h⟩] at hdigit
    · have hparts : 10 * (n / 10) + n % 10 = n := Nat.div_add_mod n 10
      rw [readWhole_concat _ (Nat.mod_lt n (by decide)), ih (n / 10) (by omega) (by omega), hparts,
        if_pos ⟨rfl, h⟩]

/-- Digits of which none is dropped are the number that they write. -/
theorem value_readWhole_toDigits {n : Nat} (h : (readWhole (Nat.toDigits 10 n)).dropped = 0) :
    (readWhole (Nat.toDigits 10 n)).value = n := by
  induction n using Nat.strongRecOn with
  | ind n ih =>
    by_cases hfits : n ≤ maxSignificand
    · rw [readWhole_toDigits hfits]
    · have hlarge : ¬ n < 10 := fun hsmall => hfits (le_trans hsmall.le (by decide))
      rw [Nat.toDigits_eq_if (by decide), if_neg hlarge,
        readWhole_concat _ (Nat.mod_lt n (by decide))] at h
      split_ifs at h with hfront
      have hvalue := ih (n / 10) (by omega) hfront.1
      omega

/-- Only zero is written with a zero in front. -/
theorem eq_zero_of_toDigits {n : Nat} {r : List Char} (h : Nat.toDigits 10 n = '0' :: r) :
    n = 0 := by
  induction n using Nat.strongRecOn generalizing r with
  | ind n ih =>
    rw [Nat.toDigits_eq_if (by decide)] at h
    split at h
    · rename_i hsmall
      have hvalue := digitValue_digitChar hsmall
      rw [(List.cons.inj h).1] at hvalue
      exact hvalue.symm
    · cases hfront : Nat.toDigits 10 (n / 10) with
      | nil => exact absurd hfront Nat.toDigits_ne_nil
      | cons c s =>
        rw [hfront, List.cons_append] at h
        rw [(List.cons.inj h).1] at hfront
        have hzero := ih (n / 10) (by omega) hfront
        omega

/-- A text that does not go on with digits. -/
def EndsDigits (rest : List Char) : Prop := ∀ c r, rest = c :: r → c.isDigit = false

theorem endsDigits_nil : EndsDigits [] := fun _ _ h => by cases h

theorem EndsNumber.endsDigits {rest : List Char} (h : EndsNumber rest) : EndsDigits rest :=
  fun c r heq => (h c r heq).1

theorem span_digits {ds rest : List Char} (hds : ∀ c ∈ ds, c.isDigit = true)
    (hrest : EndsDigits rest) :
    (ds ++ rest).takeWhile Char.isDigit = ds ∧ (ds ++ rest).dropWhile Char.isDigit = rest := by
  refine span_of_head hds fun c hc => ?_
  obtain ⟨r, rfl⟩ := List.head?_eq_some_iff.1 hc
  exact hrest c r rfl

/-- Digits that may stand before a point: a zero comes first only if it is alone. -/
structure IsWhole (ds : List Char) : Prop where
  ne_nil : ds ≠ []
  digits : ∀ c ∈ ds, c.isDigit = true
  alone : ∀ r, ds = '0' :: r → r = []

theorem isDigit_toDigits {n : Nat} : ∀ c ∈ Nat.toDigits 10 n, c.isDigit = true :=
  fun _ hc => Nat.isDigit_of_mem_toDigits (by decide) (by decide) hc

theorem isWhole_toDigits (n : Nat) : IsWhole (Nat.toDigits 10 n) where
  ne_nil := Nat.toDigits_ne_nil
  digits := isDigit_toDigits
  alone r h := by
    have hzero : Nat.toDigits 10 n = ['0'] := by rw [eq_zero_of_toDigits h, Nat.toDigits_zero]
    exact (List.cons.inj (h.symm.trans hzero)).2

/-- The digits before a point are read, and then what follows them. -/
theorem scanUnsigned_append_whole {neg : Bool} {ds rest : List Char} (h : IsWhole ds)
    (hrest : EndsDigits rest) :
    scanUnsigned neg (ds ++ rest) = scanFraction neg ds rest := by
  cases ds with
  | nil => exact absurd rfl h.ne_nil
  | cons c r =>
    obtain ⟨hc, hr⟩ := List.forall_mem_cons.1 h.digits
    obtain ⟨htake, hdrop⟩ := span_digits hr hrest
    rw [List.cons_append]
    unfold scanUnsigned
    dsimp only
    split_ifs with hzero
    · obtain rfl : r = [] := h.alone r (by rw [hzero])
      rw [List.nil_append]
      cases rest with
      | nil => rfl
      | cons d s => exact if_neg (by rw [hrest d s rfl]; decide)
    · rw [htake, hdrop]

theorem scanFraction_endsNumber {neg : Bool} {whole rest : List Char} (hrest : EndsNumber rest) :
    scanFraction neg whole rest = .found (numberOf neg whole none none) rest := by
  cases rest with
  | nil => rfl
  | cons c r =>
    obtain ⟨-, hpoint, he, hE⟩ := hrest c r rfl
    unfold scanFraction
    split
    · rename_i heq
      exact absurd (List.cons.inj heq).1 hpoint
    · unfold scanScaled
      split
      · rename_i heq
        exact absurd (List.cons.inj heq).1 he
      · rename_i heq
        exact absurd (List.cons.inj heq).1 hE
      · rfl

/-- A written whole number is read back. -/
theorem scanUnsigned_toDigits {n : Nat} (h : n ≤ maxSignificand) {rest : List Char}
    (hrest : EndsNumber rest) :
    scanUnsigned false (Nat.toDigits 10 n ++ rest) = .found (some (.int n)) rest := by
  have hnumber : numberOf false (Nat.toDigits 10 n) none none = some (.int n) := by
    simp [numberOf, readWhole_toDigits h]
  rw [scanUnsigned_append_whole (isWhole_toDigits n) hrest.endsDigits,
    scanFraction_endsNumber hrest, hnumber]

/-- A digit begins a number and nothing else. -/
theorem first_digit {c : Char} (hc : c.isDigit = true) (r : List Char) :
    Token.first (c :: r) = (scanUnsigned false (c :: r)).toStep .number false := by
  have hne : ∀ d : Char, d.isDigit = false → c ≠ d := by
    rintro d hd rfl
    rw [hc] at hd
    cases hd
  have hpunctuation : punctuation? c = none := by
    unfold punctuation?
    rw [if_neg (hne _ rfl), if_neg (hne _ rfl), if_neg (hne _ rfl), if_neg (hne _ rfl),
      if_neg (hne _ rfl), if_neg (hne _ rfl)]
  have hword : word? c = none := by
    unfold word?
    rw [if_neg (hne _ rfl), if_neg (hne _ rfl), if_neg (hne _ rfl)]
  unfold Token.first
  simp only [hpunctuation, hword]
  rw [if_neg (hne _ rfl), if_neg (hne _ rfl), if_pos hc]

theorem first_nat {n : Nat} (h : n ≤ maxSignificand) {rest : List Char} (hrest : EndsNumber rest) :
    Token.first ((toString n).toList ++ rest) = .token (.number (some (.int n))) rest := by
  have htext : (toString n).toList = Nat.toDigits 10 n := Nat.toList_repr
  rw [htext]
  have hscan := scanUnsigned_toDigits h hrest
  cases hds : Nat.toDigits 10 n with
  | nil => exact absurd hds Nat.toDigits_ne_nil
  | cons c r =>
    have hc : c ∈ Nat.toDigits 10 n := hds ▸ List.mem_cons_self
    rw [hds] at hscan
    rw [List.cons_append] at hscan ⊢
    rw [first_digit (isDigit_toDigits c hc), hscan]
    rfl

/-! ### Texts -/

/-- A blank is no token. -/
theorem isSpace_of_first {c : Char} {cs rest : List Char} {t : Token}
    (h : Token.first (c :: cs) = .token t rest) :
    isSpace c = false := by
  cases hc : isSpace c with
  | false => rfl
  | true =>
    simp only [isSpace, Bool.or_eq_true, decide_eq_true_eq] at hc
    rcases hc with ((rfl | rfl) | rfl) | rfl <;> cases h

/-- A text that begins with a token. -/
theorem scan_of_first {cs rest : List Char} {t : Token} (h : Token.first cs = .token t rest) :
    Token.scan cs = (t :: (Token.scan rest).1, (Token.scan rest).2) := by
  have hdrop : cs.dropWhile isSpace = cs := by
    cases cs with
    | nil => rfl
    | cons c r => simp [isSpace_of_first h]
  rw [Token.scan]
  split
  · rename_i t' r' heq
    rw [hdrop, h] at heq
    cases heq
    rfl
  · rename_i e heq
    rw [hdrop, h] at heq
    cases heq

theorem scan_punctuation {c : Char} {t : Token} (h : punctuation? c = some t) (rest : List Char) :
    Token.scan (c :: rest) = (t :: (Token.scan rest).1, (Token.scan rest).2) := by
  refine scan_of_first ?_
  unfold Token.first
  simp only [h]

theorem scan_stringText (s : String) (rest : List Char) :
    Token.scan ((stringText s).toList ++ rest) =
      (.string (some s) :: (Token.scan rest).1, (Token.scan rest).2) :=
  scan_of_first (first_stringText s rest)

theorem scan_nat {n : Nat} (h : n ≤ maxSignificand) {rest : List Char} (hrest : EndsNumber rest) :
    Token.scan ((toString n).toList ++ rest) =
      (.number (some (.int n)) :: (Token.scan rest).1, (Token.scan rest).2) :=
  scan_of_first (first_nat h hrest)

end Parley.Json

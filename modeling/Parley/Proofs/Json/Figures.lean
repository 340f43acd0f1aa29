import Parley.Json.Document
import Parley.Proofs.Json.Numerals

/-!
# Numbers as they are written and read

The text of a number is one token, whatever the number.  It need not stand for the same number:
digits that do not fit the significand are dropped, and what is too large has no value.  But when
the text of a whole number is read as a whole number, then as the same one.

* `Decimal.scan_text`: the text of a decimal;
* `Number.document`, `Number.scan_append`: what the text of a number is read as;
* `Number.eq_of_document`: whole numbers.
-/

namespace Parley

namespace Json

variable {neg : Bool} {ds rest whole cs : List Char} {fraction : Option (List Char)}

/-! ### Parts of a number -/

/-- The digits after a point are read, and then what follows them. -/
theorem scanFraction_point (hne : ds ≠ []) (hds : ∀ c ∈ ds, c.isDigit = true)
    (hrest : EndsDigits rest) :
    scanFraction neg whole ('.' :: (ds ++ rest)) = scanScaled neg whole (some ds) rest := by
  cases ds with
  | nil => exact absurd rfl hne
  | cons c r =>
    obtain ⟨htake, hdrop⟩ := span_digits hds hrest
    rw [List.cons_append] at htake hdrop ⊢
    show (if c.isDigit then scanScaled neg whole (some _) _ else _) = _
    rw [if_pos (hds c List.mem_cons_self), htake, hdrop]

/-- An exponent with its sign, up to the end of the text. -/
theorem scanScaled_exponent (hne : ds ≠ []) (hds : ∀ c ∈ ds, c.isDigit = true) (sign : Char)
    (hsign : sign = '-' ∨ sign = '+') :
    ∃ n, scanScaled neg whole fraction ('e' :: sign :: ds) = .found n [] := by
  cases ds with
  | nil => exact absurd rfl hne
  | cons c r =>
    obtain ⟨htake, hdrop⟩ := span_digits hds endsDigits_nil
    rw [List.append_nil] at htake hdrop
    have hscan : ∃ e, scanExponent (sign :: c :: r) = .found e [] := by
      unfold scanExponent
      rcases hsign with rfl | rfl <;> simp only [Decimal.splitSign] <;>
        exact ⟨_, by rw [if_pos (hds c List.mem_cons_self), htake, hdrop]⟩
    obtain ⟨e, he⟩ := hscan
    exact ⟨numberOf neg whole fraction (some e), by simp only [scanScaled, he]⟩

/-- The text of a number after its sign. -/
def IsUnsigned (cs : List Char) : Prop := ∀ neg, ∃ n, scanUnsigned neg cs = .found n []

/-- Digits before a point and after it. -/
theorem isUnsigned_point (hwhole : IsWhole whole) (hne : ds ≠ [])
    (hds : ∀ c ∈ ds, c.isDigit = true) :
    IsUnsigned (whole ++ '.' :: ds) := by
  intro neg
  have hpoint : EndsDigits ('.' :: ds) := fun c r h => by
    cases h
    rfl
  have hfraction : scanFraction neg whole ('.' :: (ds ++ [])) = _ :=
    scanFraction_point hne hds endsDigits_nil
  rw [List.append_nil] at hfraction
  exact ⟨_, by rw [scanUnsigned_append_whole hwhole hpoint, hfraction]; rfl⟩

/-- No token stands in an empty text. -/
theorem scan_nil : Token.scan [] = ([], .clean) := scan_of_stop rfl

/-- A sign and the text of a number after it are one token. -/
theorem scan_of_unsigned {n : Option Number} (hn : scanUnsigned neg cs = .found n []) :
    Token.scan ((if neg then ['-'] else []) ++ cs) = ([.number n], .clean) := by
  have hfirst : Token.first ((if neg then ['-'] else []) ++ cs) = .token (.number n) [] := by
    cases neg with
    | true =>
      show (scanUnsigned true cs).toStep Token.number false = _
      rw [hn]
      rfl
    | false =>
      cases cs with
      | nil => cases hn
      | cons c r =>
        have hc : c.isDigit = true := by
          by_contra hnot
          have hzero : c ≠ '0' := by
            rintro rfl
            exact hnot rfl
          have hfault : scanUnsigned false (c :: r) = .fault .malformed := by
            unfold scanUnsigned
            exact (if_neg hzero).trans (if_neg hnot)
          rw [hfault] at hn
          cases hn
        show Token.first (c :: r) = _
        rw [first_digit hc, hn]
        rfl
  rw [scan_of_first hfirst, scan_nil]

end Json

/-! ### Decimals -/

namespace Decimal

open Json

variable {ds : List Char}

theorem positional_isUnsigned (hds : ∀ c ∈ ds, c.isDigit = true) (hne : ds ≠ [])
    (hzero : ∀ r, ds ≠ '0' :: r) (lead : Int) : IsUnsigned (positional ds lead true) := by
  have hzeros : ∀ {n : Nat}, ∀ c ∈ List.replicate n '0', c.isDigit = true := fun c hc => by
    rw [List.eq_of_mem_replicate hc]
    rfl
  by_cases hlead : lead < 0
  · rw [positional, if_pos hlead]
    have hfront : IsWhole ['0'] :=
      ⟨List.cons_ne_nil _ _, List.forall_mem_singleton.2 rfl, fun r h => (List.cons.inj h).2.symm⟩
    refine isUnsigned_point hfront ?_ ?_
    · simp [hne]
    · exact List.forall_mem_append.2 ⟨hzeros, hds⟩
  · -- the digits before the point, filled up with zeros
    have hfront :
        IsWhole (ds.take (lead.toNat + 1) ++ List.replicate (lead.toNat + 1 - ds.length) '0') := by
      obtain ⟨c, r, rfl⟩ := List.exists_cons_of_ne_nil hne
      refine ⟨nofun, List.forall_mem_append.2 ⟨fun c hc => hds c (List.mem_of_mem_take hc), hzeros⟩,
        fun s h => ?_⟩
      exact absurd (congrArg (· :: r) (List.cons.inj h).1) (hzero r)
    rw [positional, if_neg hlead]
    dsimp only
    rw [if_pos rfl]
    split_ifs with hfraction
    · exact isUnsigned_point hfront (List.cons_ne_nil _ _) (List.forall_mem_singleton.2 rfl)
    · rw [List.append_assoc, List.singleton_append]
      exact isUnsigned_point hfront hfraction fun c hc => hds c (List.mem_of_mem_drop hc)

theorem scientific_isUnsigned (hds : ∀ c ∈ ds, c.isDigit = true) (hne : ds ≠ [])
    (hzero : ∀ r, ds ≠ '0' :: r) (lead : Int) : IsUnsigned (scientific ds lead true) := by
  intro neg
  obtain ⟨c, r, rfl⟩ := List.exists_cons_of_ne_nil hne
  have hwhole : IsWhole [c] :=
    ⟨nofun, fun d hd => hds d (by simp_all), fun s h => (List.cons.inj h).2.symm⟩
  obtain ⟨sign, hsign, htext⟩ : ∃ sign, (sign = '-' ∨ sign = '+') ∧
      (if lead < 0 then ['-'] else if true then ['+'] else []) = [sign] := by
    by_cases hlead : lead < 0
    · exact ⟨'-', .inl rfl, if_pos hlead⟩
    · exact ⟨'+', .inr rfl, if_neg hlead⟩
  have hexponent (fraction : Option (List Char)) :
      ∃ n, scanScaled neg [c] fraction ('e' :: sign :: digitChars lead.natAbs) = .found n [] :=
    scanScaled_exponent Nat.toDigits_ne_nil isDigit_toDigits sign hsign
  have hends : EndsDigits ('e' :: sign :: digitChars lead.natAbs) := fun d s h => by
    cases h
    rfl
  unfold scientific
  dsimp only
  rw [htext]
  cases r with
  | nil =>
    obtain ⟨n, hn⟩ := hexponent none
    refine ⟨n, ?_⟩
    show scanUnsigned neg ([c] ++ 'e' :: sign :: digitChars lead.natAbs) = _
    rw [scanUnsigned_append_whole hwhole hends, ← hn]
    rfl
  | cons d s =>
    obtain ⟨n, hn⟩ := hexponent (some (d :: s))
    refine ⟨n, ?_⟩
    have hpoint : EndsDigits ('.' :: (d :: s ++ 'e' :: sign :: digitChars lead.natAbs)) := by
      intro d s h
      cases h
      rfl
    have happend : c :: '.' :: d :: s ++ ['e'] ++ [sign] ++ digitChars lead.natAbs =
        [c] ++ '.' :: (d :: s ++ 'e' :: sign :: digitChars lead.natAbs) := by simp
    show scanUnsigned neg (c :: '.' :: d :: s ++ ['e'] ++ [sign] ++ digitChars lead.natAbs) = _
    rw [happend, scanUnsigned_append_whole hwhole hpoint,
      scanFraction_point (List.cons_ne_nil d s)
        (fun e he => hds e (List.mem_cons_of_mem c he)) hends, hn]

/-- The text of a decimal in a document is one number. -/
theorem scan_text (d : Decimal) : ∃ n, Token.scan (d.text .document) = ([.number n], .clean) := by
  refine Exists.imp (fun _ => scan_of_unsigned) ?_
  have hne : digitChars d.digits ≠ [] := Nat.toDigits_ne_nil
  split_ifs with hdigits hstyle
  · cases d.neg <;> exact ⟨_, rfl⟩
  · exact positional_isUnsigned isDigit_toDigits hne
      (fun r h => hdigits (eq_zero_of_toDigits h)) _ d.neg
  · exact scientific_isUnsigned isDigit_toDigits hne
      (fun r h => hdigits (eq_zero_of_toDigits h)) _ d.neg

end Decimal

/-! ### Numbers -/

namespace Json

theorem toList_numberText_int (i : Int) :
    (numberText (.int i)).toList = (if decide (i < 0) then ['-'] else []) ++
      Nat.toDigits 10 i.natAbs := by
  by_cases hi : i < 0 <;> simp [numberText, Number.text?, hi, Nat.toList_repr]

theorem toList_numberText_float {x : Binary64} {neg : Bool} {u : Nat}
    (h : x.value = .finite neg u) :
    (numberText (.float x)).toList = x.shortest.text .document := by
  simp [numberText, Number.text?, Binary64.isFinite, Binary64.text, h]

theorem scan_toDigits (n : Nat) (neg : Bool) :
    scanUnsigned neg (Nat.toDigits 10 n) =
      .found (numberOf neg (Nat.toDigits 10 n) none none) [] := by
  have hends : EndsNumber [] := nofun
  have hwhole : scanUnsigned neg (Nat.toDigits 10 n ++ []) = _ :=
    scanUnsigned_append_whole (isWhole_toDigits n) endsDigits_nil
  rw [List.append_nil] at hwhole
  exact hwhole.trans (scanFraction_endsNumber hends)

end Json

namespace Number

open Json

/-- What the text of a number is read as. -/
def document (n : Number) : Document :=
  match (Token.scan (numberText n).toList).1 with
  | [.number m] => .number m
  | _ => .null

/-- The text of a number is one number, or the word for none. -/
theorem scan_text (n : Number) :
    (∃ m, Token.scan (numberText n).toList = ([.number m], .clean)) ∨ numberText n = "null" := by
  cases n with
  | int i =>
    rw [toList_numberText_int]
    exact .inl ⟨_, scan_of_unsigned (scan_toDigits i.natAbs _)⟩
  | float x =>
    cases hx : x.value with
    | finite neg u =>
      rw [toList_numberText_float hx]
      exact .inl x.shortest.scan_text
    | infinite neg | nan => exact .inr (by simp [numberText, text?, Binary64.isFinite, hx])

/-- The text of a number, in front of what does not go on with it, is one token, and its document is
the one read. -/
theorem scan_append (n : Number) {rest : List Char} (hrest : EndsNumber rest) :
    ∃ t, Token.scan ((numberText n).toList ++ rest) =
      (t :: (Token.scan rest).1, (Token.scan rest).2) ∧
      ∀ stack b, Document.step stack (.value b) t = some (Document.finish n.document stack) := by
  unfold document
  rcases n.scan_text with ⟨m, hm⟩ | hnull
  · refine ⟨.number m, scan_append_of_number hm hrest, fun stack b => ?_⟩
    rw [hm]
    cases b <;> rfl
  · rw [hnull]
    have hscan : Token.scan "null".toList = ([.null], .clean) := by
      have hfirst : Token.first "null".toList = .token .null [] := rfl
      rw [scan_of_first hfirst, scan_nil]
    refine ⟨.null, scan_of_first rfl, fun stack b => ?_⟩
    rw [hscan]
    cases b <;> rfl

theorem depth_document (n : Number) : n.document.depth = 0 := by
  unfold document
  split <;> rfl

theorem ReadsBack.document_eq {n : Number} (h : n.ReadsBack) : n.document = .number (some n) := by
  rw [document, h]

/-- **A whole number is read as no other whole number.** -/
theorem eq_of_document {n m : Nat} (h : (Number.int n).document = .number (some (.int m))) :
    m = n := by
  have htext : (numberText (.int n)).toList = (if false then ['-'] else []) ++
      Nat.toDigits 10 n := by
    rw [toList_numberText_int, Int.natAbs_natCast, decide_eq_false (by omega)]
  rw [document, htext, scan_of_unsigned (scan_toDigits n false)] at h
  have hnumber : numberOf false (Nat.toDigits 10 n) none none = some (.int m) := by injection h
  unfold numberOf at hnumber
  dsimp only at hnumber
  by_cases hdropped : (readWhole (Nat.toDigits 10 n)).dropped = 0
  · rw [if_neg (not_not.2 hdropped), if_pos Bool.not_false, value_readWhole_toDigits hdropped]
      at hnumber
    cases hnumber
    rfl
  · rw [if_pos hdropped] at hnumber
    obtain ⟨x, -, hx⟩ := Option.map_eq_some_iff.1 hnumber
    cases hx

end Number

end Parley

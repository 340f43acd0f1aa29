import Parley.Proofs.Json.Written

/-!
# Numbers in a text

The text of a number is one token wherever it stands, unless what follows goes on with the number.

* `scanUnsigned_append`, `first_number_append`: a number read in front of more text;
* `scan_of_token`, `scan_congr`: the first token of a text, blanks in front of it aside;
* `Number.ReadsBack`, `scan_append_of_number`: numbers whose texts stand for them;
* `readsBack_nat`: whole numbers.
-/

namespace Parley

namespace Json

section Numbers

variable {neg : Bool} {whole cs r rest : List Char} {fraction : Option (List Char)}
    {n : Option Number}

theorem digits_append (cs : List Char) (hrest : EndsNumber rest) :
    (cs ++ rest).takeWhile Char.isDigit = cs.takeWhile Char.isDigit ∧
      (cs ++ rest).dropWhile Char.isDigit = cs.dropWhile Char.isDigit ++ rest := by
  induction cs with
  | nil =>
    have hnone : ∀ c ∈ ([] : List Char), c.isDigit = true := nofun
    exact span_digits hnone hrest.endsDigits
  | cons c cs ih =>
    cases hc : c.isDigit with
    | true => simp [hc, ih]
    | false => simp [hc]

theorem splitSign_append (c : Char) (cs rest : List Char) :
    Decimal.splitSign (c :: cs ++ rest) =
      ((Decimal.splitSign (c :: cs)).1, (Decimal.splitSign (c :: cs)).2 ++ rest) := by
  by_cases hminus : c = '-'
  · subst hminus
    rfl
  · by_cases hplus : c = '+'
    · subst hplus
      rfl
    · unfold Decimal.splitSign
      split <;> simp_all

theorem scanExponent_append {e : Int} (h : scanExponent cs = .found e r) (hrest : EndsNumber rest) :
    scanExponent (cs ++ rest) = .found e (r ++ rest) := by
  cases cs with
  | nil => cases h
  | cons c cs =>
    unfold scanExponent at h ⊢
    rw [splitSign_append]
    generalize Decimal.splitSign (c :: cs) = p at h ⊢
    obtain ⟨neg, ds⟩ := p
    cases ds with
    | nil => cases h
    | cons d ds =>
      obtain ⟨htake, hdrop⟩ := digits_append (d :: ds) hrest
      dsimp only [List.cons_append] at h htake hdrop ⊢
      split at h
      · rename_i hd
        rw [if_pos hd, htake, hdrop]
        cases h
        rfl
      · cases h

theorem scanScaled_append (h : scanScaled neg whole fraction cs = .found n r)
    (hrest : EndsNumber rest) :
    scanScaled neg whole fraction (cs ++ rest) = .found n (r ++ rest) := by
  cases cs with
  | nil =>
    cases h
    unfold scanScaled
    split
    · rename_i heq
      exact absurd rfl (hrest _ _ heq).2.2.1
    · rename_i heq
      exact absurd rfl (hrest _ _ heq).2.2.2
    · rfl
  | cons c cs =>
    by_cases hc : c = 'e' ∨ c = 'E'
    · have hfault (ds : List Char) (f : Fault) (hscan : scanExponent ds = .fault f) :
          scanScaled neg whole fraction (c :: ds) = .fault f := by
        rcases hc with rfl | rfl <;> simp only [scanScaled, hscan]
      have hfound (ds : List Char) (e : Int) (s : List Char)
          (hscan : scanExponent ds = .found e s) :
          scanScaled neg whole fraction (c :: ds) =
            .found (numberOf neg whole fraction (some e)) s := by
        rcases hc with rfl | rfl <;> simp only [scanScaled, hscan]
      cases hscan : scanExponent cs with
      | fault f =>
        rw [hfault cs f hscan] at h
        cases h
      | found e s =>
        rw [hfound cs e s hscan] at h
        rw [List.cons_append, hfound _ e _ (scanExponent_append hscan hrest)]
        cases h
        rfl
    · have hplain : ∀ ds, scanScaled neg whole fraction (c :: ds) =
          .found (numberOf neg whole fraction none) (c :: ds) := by
        intro ds
        unfold scanScaled
        split <;> simp_all
      rw [hplain] at h
      rw [List.cons_append, hplain]
      cases h
      rfl

theorem scanFraction_append (h : scanFraction neg whole cs = .found n r) (hrest : EndsNumber rest) :
    scanFraction neg whole (cs ++ rest) = .found n (r ++ rest) := by
  have hplain : ∀ ds, (∀ s, ds ≠ '.' :: s) →
      scanFraction neg whole ds = scanScaled neg whole none ds := by
    intro ds hds
    unfold scanFraction
    split
    · rename_i s
      exact absurd rfl (hds s)
    · rfl
  cases cs with
  | nil =>
    rw [List.nil_append, hplain rest fun s heq => (hrest _ _ heq).2.1 rfl, ← List.nil_append rest]
    exact scanScaled_append h hrest
  | cons c cs =>
    by_cases hc : c = '.'
    · subst hc
      cases cs with
      | nil => cases h
      | cons d ds =>
        have hpoint : ∀ ds, scanFraction neg whole ('.' :: d :: ds) =
            if d.isDigit then
              scanScaled neg whole (some ((d :: ds).takeWhile Char.isDigit))
                ((d :: ds).dropWhile Char.isDigit)
            else .fault .malformed := fun _ => rfl
        obtain ⟨htake, hdrop⟩ := digits_append (d :: ds) hrest
        rw [List.cons_append] at htake hdrop
        rw [hpoint] at h
        rw [List.cons_append, List.cons_append, hpoint]
        split at h
        · rename_i hd
          rw [if_pos hd, htake, hdrop]
          exact scanScaled_append h hrest
        · cases h
    · rw [hplain (c :: cs) fun s heq => hc (List.cons.inj heq).1] at h
      rw [hplain (c :: cs ++ rest) fun s heq => hc (List.cons.inj heq).1]
      exact scanScaled_append h hrest

theorem scanUnsigned_append (h : scanUnsigned neg cs = .found n r) (hrest : EndsNumber rest) :
    scanUnsigned neg (cs ++ rest) = .found n (r ++ rest) := by
  cases cs with
  | nil => cases h
  | cons c cs =>
    unfold scanUnsigned at h ⊢
    dsimp only [List.cons_append] at h ⊢
    split at h
    · rename_i hc
      rw [if_pos hc]
      cases cs with
      | nil =>
        have hfraction := scanFraction_append h hrest
        rw [List.nil_append] at hfraction ⊢
        split
        · rename_i d s
          rw [(hrest d s rfl).1, if_neg Bool.false_ne_true]
          exact hfraction
        · exact hfraction
      | cons d ds =>
        dsimp only [List.cons_append] at h ⊢
        split at h
        · cases h
        · rename_i hd
          rw [if_neg hd]
          exact scanFraction_append h hrest
    · rename_i hc
      rw [if_neg hc]
      split at h
      · rename_i hdigit
        obtain ⟨htake, hdrop⟩ := digits_append cs hrest
        rw [if_pos hdigit, htake, hdrop]
        exact scanFraction_append h hrest
      · cases h

theorem toStep_eq_token {α : Type} {s : Scan α} {f : α → Token} {b : Bool} {t : Token} :
    s.toStep f b = .token t r ↔ ∃ a, s = .found a r ∧ f a = t := by
  cases s with
  | found a s => simp [Scan.toStep, and_comm]
  | fault f => simp [Scan.toStep]

/-- A number begins with a digit or a minus sign. -/
theorem first_number_cases {c : Char} (h : Token.first (c :: cs) = .token (.number n) r) :
    c.isDigit = true ∨ c = '-' := by
  by_contra hne
  obtain ⟨hdigit, hminus⟩ := not_or.1 hne
  unfold Token.first at h
  dsimp only at h
  split at h
  · rename_i t _ hpunctuation
    cases h
    unfold punctuation? at hpunctuation
    split_ifs at hpunctuation <;> cases hpunctuation
  · rename_i w t _ hword
    obtain ⟨_, -, rfl⟩ := toStep_eq_token.1 h
    unfold word? at hword
    split_ifs at hword <;> cases hword
  · rw [if_neg hminus, if_neg hdigit] at h
    split_ifs at h
    obtain ⟨_, -, hstring⟩ := toStep_eq_token.1 h
    cases hstring

/-- What begins with a number goes on doing so, unless what follows goes on with it. -/
theorem first_number_append (h : Token.first cs = .token (.number n) r) (hrest : EndsNumber rest) :
    Token.first (cs ++ rest) = .token (.number n) (r ++ rest) := by
  cases cs with
  | nil => cases h
  | cons c cs =>
    have hstep (neg : Bool) (ds : List Char)
        (h : (scanUnsigned neg ds).toStep Token.number false = .token (.number n) r) :
        (scanUnsigned neg (ds ++ rest)).toStep Token.number false =
          .token (.number n) (r ++ rest) := by
      obtain ⟨m, hscan, hm⟩ := toStep_eq_token.1 h
      exact toStep_eq_token.2 ⟨m, scanUnsigned_append hscan hrest, hm⟩
    rcases first_number_cases h with hdigit | rfl
    · rw [first_digit hdigit] at h
      rw [List.cons_append, first_digit hdigit]
      exact hstep false (c :: cs) h
    · exact hstep true cs h

/-- Only the end of a text is its end. -/
theorem eq_nil_of_first (h : Token.first cs = .stop .clean) : cs = [] := by
  have hbroken : ∀ {α : Type} {s : Scan α} {f : α → Token} {b : Bool},
      s.toStep f b ≠ .stop .clean := by
    intro α s f b
    cases s <;> exact nofun
  cases cs with
  | nil => rfl
  | cons c cs =>
    unfold Token.first at h
    dsimp only at h
    split at h
    · cases h
    · exact absurd h hbroken
    · split_ifs at h
      · exact absurd h hbroken
      · exact absurd h hbroken
      · exact absurd h hbroken
      · cases h

theorem scan_of_token {t : Token} (h : Token.first (cs.dropWhile isSpace) = .token t r) :
    Token.scan cs = (t :: (Token.scan r).1, (Token.scan r).2) := by
  rw [Token.scan]
  split
  · rename_i heq
    rw [h] at heq
    cases heq
    rfl
  · rename_i heq
    rw [h] at heq
    cases heq

theorem scan_of_stop {e : Ending} (h : Token.first (cs.dropWhile isSpace) = .stop e) :
    Token.scan cs = ([], e) := by
  rw [Token.scan]
  split
  · rename_i heq
    rw [h] at heq
    cases heq
  · rename_i heq
    rw [h] at heq
    cases heq
    rfl

/-- Blanks in front of a text do not matter. -/
theorem scan_congr {cs' : List Char} (h : cs.dropWhile isSpace = cs'.dropWhile isSpace) :
    Token.scan cs = Token.scan cs' := by
  cases hfirst : Token.first (cs.dropWhile isSpace) with
  | token t r => exact (scan_of_token hfirst).trans (scan_of_token (h ▸ hfirst)).symm
  | stop e => exact (scan_of_stop hfirst).trans (scan_of_stop (h ▸ hfirst)).symm

/-- A text that is one number is one before any text that does not go on with it. -/
theorem scan_append_of_number (h : Token.scan cs = ([.number n], .clean))
    (hrest : EndsNumber rest) :
    Token.scan (cs ++ rest) = (.number n :: (Token.scan rest).1, (Token.scan rest).2) := by
  cases hfirst : Token.first (cs.dropWhile isSpace) with
  | stop e =>
    rw [scan_of_stop hfirst] at h
    cases h
  | token t r =>
    rw [scan_of_token hfirst] at h
    obtain ⟨htokens, hend⟩ := Prod.mk.inj h
    obtain ⟨rfl, htail⟩ := List.cons.inj htokens
    -- only blanks follow the number in its own text
    have hblank : r.dropWhile isSpace = [] := by
      cases hr : Token.first (r.dropWhile isSpace) with
      | token t s =>
        rw [scan_of_token hr] at htail
        cases htail
      | stop e =>
        rw [scan_of_stop hr] at hend
        cases hend
        exact eq_nil_of_first hr
    have hstart : (cs ++ rest).dropWhile isSpace = cs.dropWhile isSpace ++ rest := by
      rw [List.dropWhile_append, if_neg]
      rw [List.isEmpty_iff]
      intro hnil
      rw [hnil] at hfirst
      cases hfirst
    have hskip : Token.scan (r ++ rest) = Token.scan rest := by
      refine scan_congr ?_
      rw [List.dropWhile_append, hblank]
      rfl
    rw [scan_of_token (hstart ▸ first_number_append hfirst hrest), hskip]

end Numbers

end Json

open Json in
/-- The text of the number is that number and nothing else. -/
def Number.ReadsBack (n : Number) : Prop :=
  Token.scan (numberText n).toList = ([.number (some n)], .clean)

instance (n : Number) : Decidable n.ReadsBack := inferInstanceAs (Decidable (_ = _))

/-- Whole numbers read back. -/
theorem Json.readsBack_nat {n : Nat} (h : n ≤ maxSignificand) : (Number.int n).ReadsBack := by
  have htext : numberText (.int n) = toString n := by
    simp [numberText, Number.text?]
  have hscan : Token.scan ((toString n).toList ++ []) = _ := scan_nat h nofun
  rw [List.append_nil, ← htext] at hscan
  have hend : Token.scan [] = ([], .clean) := scan_of_stop rfl
  rw [Number.ReadsBack, hscan, hend]

end Parley

import Parley.Flow.Basic
import Parley.Proofs.Guard.Evaluation
import Parley.Proofs.Guard.Shown

/-!
# Guards of edges

The guard of an edge is read without the blanks around it.  If nothing is left, it always holds; if
the word `else` is left, in any case, it is the fallback; and otherwise it is read as an expression.

* `Text.trim_eq_empty_iff`, `Text.eq_nil_of_blank_suffix`: what is left of a text;
* `Guard.map_toLower_of_scan`, `Guard.scans_fallback`: the texts that are the word for the fallback;
* `Guard.parseExpr_fallback`: this word is no expression;
* `Guard.parseEdgeGuard_cases`: what the guard of an edge is read as;
* `Guard.Derives.hasTightTerms`: the text of an expression has no blanks around it;
* `Guard.compileEdgeGuard_shown`: the text of a guard compiles to this guard.
-/

namespace Parley

/-! ### Texts without blanks around them -/

namespace Text

variable {s : String}

theorem toList_trim (s : String) :
    (trim s).toList = (s.toList.dropWhile isBlank).rdropWhile isBlank :=
  String.toList_ofList

theorem trim_eq_empty_iff : trim s = "" ↔ isBlankText s = true := by
  rw [← String.toList_inj, toList_trim, isBlankText, List.all_eq_true]
  show List.rdropWhile isBlank _ = [] ↔ _
  rw [List.rdropWhile_eq_nil_iff]
  constructor
  · intro h c hc
    rw [← List.takeWhile_append_dropWhile (p := isBlank) (l := s.toList)] at hc
    exact (List.mem_append.1 hc).elim List.mem_takeWhile_imp (h c)
  · intro h c hc
    exact h c ((List.dropWhile_suffix _).subset hc)

/-- What is left begins with no blank. -/
theorem isBlank_of_trim_cons {c : Char} {r : List Char} (h : (trim s).toList = c :: r) :
    isBlank c = false := by
  obtain ⟨after, hafter⟩ := List.rdropWhile_prefix (p := isBlank) (l := s.toList.dropWhile isBlank)
  rw [← toList_trim, h, List.cons_append] at hafter
  have hhead := List.head_dropWhile_not isBlank (l := s.toList) (by simp [← hafter])
  simpa only [← hafter, List.head_cons] using hhead

/-- What is left ends in no blanks. -/
theorem eq_nil_of_blank_suffix {t : List Char} (ht : t <:+ (trim s).toList)
    (hblank : ∀ c ∈ t, isBlank c = true) :
    t = [] := by
  by_contra hne
  obtain ⟨front, hfront⟩ := ht
  rw [toList_trim] at hfront
  have hlast :=
    List.rdropWhile_last_not isBlank (s.toList.dropWhile isBlank) (by rw [← hfront]; simp [hne])
  simp only [← hfront, List.getLast_append_of_ne_nil _ hne] at hlast
  exact hlast (hblank _ (List.getLast_mem hne))

/-- A text with no blank at either end. -/
structure IsTight (cs : List Char) : Prop where
  first : ∃ c r, cs = c :: r ∧ isBlank c = false
  last : ∃ r c, cs = r ++ [c] ∧ isBlank c = false

namespace IsTight

variable {cs ds : List Char}

theorem append (hcs : IsTight cs) (mid : List Char) (hds : IsTight ds) :
    IsTight (cs ++ (mid ++ ds)) := by
  obtain ⟨c, r, rfl, hc⟩ := hcs.first
  obtain ⟨s, d, rfl, hd⟩ := hds.last
  exact ⟨⟨c, _, rfl, hc⟩, ⟨c :: (r ++ (mid ++ s)), d, by simp, hd⟩⟩

theorem trim_eq {s : String} (h : IsTight s.toList) : trim s = s := by
  obtain ⟨c, r, hcs, hc⟩ := h.first
  have hfront : s.toList.dropWhile isBlank = s.toList := by
    rw [hcs, List.dropWhile_cons, hc, if_neg Bool.false_ne_true]
  obtain ⟨r, c, hcs, hc⟩ := h.last
  have hkept : ¬ isBlank c = true := by
    rw [hc]
    exact Bool.false_ne_true
  rw [← String.toList_inj, toList_trim, hfront, hcs, List.rdropWhile_concat_neg _ _ _ hkept]

end IsTight

end Text

namespace Guard

/-! ### The word for the fallback -/

/-- Only blanks are no tokens. -/
theorem isBlank_of_scan_nil {pos : ℕ} {cs : List Char} (h : scan pos cs = .ok []) :
    ∀ c ∈ cs, Text.isBlank c = true := by
  fun_induction scan pos cs with
  | case1 => exact List.forall_mem_nil _
  | case2 | case3 => cases h
  | case4 pos c r w s hs ts hscan hlexeme ih =>
    cases h
    rcases lexeme_cases hlexeme with ⟨hblank, -, hrest⟩ | ⟨t, ht, -⟩ | ⟨-, hword, -⟩
    · exact List.forall_mem_cons.2 ⟨hblank, (show s = r from hrest) ▸ ih hscan⟩
    · cases ht
    · cases hword
  | case5 => cases h

theorem map_toLower_of_ofWord {word : String} (h : Token.ofWord word = .otherwise) :
    word.map Char.toLower = fallbackGuard := by
  show word.map Char.toLower = "else"
  unfold Token.ofWord at h
  split at h <;> first | assumption | cases h

/-- If nothing is scanned but the word for the fallback, the text is this word. -/
theorem map_toLower_of_scan {s : String} {pos p : ℕ}
    (h : scan pos (Text.trim s).toList = .ok [(p, .otherwise)]) :
    (Text.trim s).map Char.toLower = fallbackGuard := by
  cases hcs : (Text.trim s).toList with
  | nil =>
    rw [hcs, scan] at h
    cases h
  | cons c r =>
    rw [hcs, scan] at h
    split at h
    · cases h
    · rename_i t w rest hle hlexeme
      split at h
      · cases h
      · rename_i ts hts
        rcases lexeme_cases hlexeme with ⟨hblank, -⟩ | ⟨t', ht', hspelled⟩ | ⟨-, hword, hrest⟩
        · rw [Text.isBlank_of_trim_cons hcs] at hblank
          cases hblank
        · obtain rfl : t = some t' := ht'
          cases h
          cases hspelled
        · obtain rfl : t = some _ := hword
          obtain rfl : rest = r.dropWhile isNameChar := hrest
          obtain ⟨hhead, rfl⟩ := List.cons.inj (Except.ok.inj h)
          -- what is left after the word is blank, and the text ends in no blanks
          have hrest : r.dropWhile isNameChar = [] := by
            refine Text.eq_nil_of_blank_suffix (s := s) ?_ (isBlank_of_scan_nil hts)
            rw [hcs]
            exact (List.dropWhile_suffix _).trans (List.suffix_cons c r)
          have hword := map_toLower_of_ofWord (Prod.mk.inj hhead).2
          have hwhole : r.takeWhile isNameChar = r := by
            rw [← List.append_nil (r.takeWhile isNameChar), ← hrest,
              List.takeWhile_append_dropWhile]
          rwa [hwhole, ← hcs, String.ofList_toList] at hword

theorem isAlpha_of_isLower_toLower {c : Char} (h : c.toLower.isLower = true) :
    c.isAlpha = true := by
  unfold Char.toLower at h
  split at h
  · rename_i hupper
    have hupper : c.isUpper = true := decide_eq_true hupper
    rw [Char.isAlpha, hupper, Bool.true_or]
  · rw [Char.isAlpha, h, Bool.or_true]

/-- The word for the fallback is a token by itself. -/
theorem scans_fallback {text : String} (h : text.map Char.toLower = fallbackGuard) :
    Scans text.toList [.otherwise] := by
  have hchars : text.toList.map Char.toLower = fallbackGuard.toList := by
    rw [← String.toList_map, h]
  have hne : text.toList ≠ [] := by
    intro hnil
    rw [hnil] at hchars
    cases hchars
  have hletters : text.toList.all Char.isAlpha = true := by
    rw [List.all_eq_true]
    intro c hc
    have hlower : c.toLower ∈ fallbackGuard.toList := hchars ▸ List.mem_map_of_mem hc
    have hall : fallbackGuard.toList.all Char.isLower = true := by decide
    exact isAlpha_of_isLower_toLower (List.all_eq_true.1 hall _ hlower)
  have hword : Token.ofWord text = .otherwise := by
    rw [Token.ofWord, h]
    rfl
  exact (spells_keyword hne hletters hword).scans

theorem Derives.ne_otherwise {c : Phrase} {d : ℕ} {ts : List Token} {e : Expr}
    (h : Derives c d ts e) :
    ts ≠ [.otherwise] := by
  induction h with
  | conjunction _ ih | unary _ ih => exact ih
  | or | and => simp [List.append_eq_singleton_iff]
  | not | group => simp
  | atom h =>
    rintro rfl
    cases h

/-- The word for the fallback is no expression. -/
theorem parseExpr_fallback {text : String} (h : text.map Char.toLower = fallbackGuard) (e : Expr) :
    parseExpr text ≠ .ok e := by
  intro hparse
  obtain ⟨-, ts, hscan, -, hderives⟩ := parseChars_eq_ok_iff.1 (parseExpr_eq_ok_iff.1 hparse)
  obtain ⟨us, hus, hkinds⟩ := scans_fallback h 0
  cases hscan.symm.trans hus
  exact hderives.ne_otherwise hkinds

/-! ### What a guard is read as -/

/-- **The guard of an edge is nothing, the word for the fallback, or an expression.** -/
theorem parseEdgeGuard_cases {text : Option String} {g : EdgeGuard}
    (h : parseEdgeGuard text = .ok g) :
    (g = .always ∧ ∀ s ∈ text, Text.isBlankText s = true) ∨
    (g = .otherwise ∧ ∃ s, text = some s ∧ (Text.trim s).map Char.toLower = fallbackGuard) ∨
    ∃ s e, text = some s ∧ Text.isBlankText s = false ∧ parseExpr (Text.trim s) = .ok e ∧
      g = .condition e := by
  cases text with
  | none =>
    cases h
    exact .inl ⟨rfl, nofun⟩
  | some s =>
    cases hblank : Text.isBlankText s with
    | true =>
      have htrim := Text.trim_eq_empty_iff.2 hblank
      simp only [parseEdgeGuard, Option.map_some, Option.filter_some, htrim, ne_eq,
        not_true_eq_false, decide_false, Bool.false_eq_true, if_false] at h
      cases h
      exact .inl ⟨rfl, fun s hs => Option.some.inj hs ▸ hblank⟩
    | false =>
      have htrim : Text.trim s ≠ "" := fun htrim => by
        rw [Text.trim_eq_empty_iff.1 htrim] at hblank
        cases hblank
      simp only [parseEdgeGuard, Option.map_some, Option.filter_some, htrim, ne_eq,
        not_false_eq_true, decide_true, if_true] at h
      split at h
      · cases h
      · rename_i p htokens
        cases h
        exact .inr (.inl ⟨rfl, s, rfl, map_toLower_of_scan (tokens_eq_ok_iff.1 htokens).2.1⟩)
      · rename_i ts _ htokens
        obtain ⟨e, he, rfl⟩ := map_eq_ok.1 (mapError_eq_ok.1 h)
        refine .inr (.inr ⟨s, e, rfl, hblank, ?_, rfl⟩)
        rw [parseExpr_eq_ok_iff, parseChars]
        exact bind_eq_ok.2 ⟨ts, htokens, he⟩

/-! ### The text of a guard -/

section Shown

open Text (IsTight)

variable {ts : List Token} {e f : Expr} {c : Phrase} {d : ℕ}

theorem isBlank_of_isNameChar {c : Char} (h : isNameChar c = true) : Text.isBlank c = false := by
  rw [isNameChar, Bool.or_eq_true, Bool.or_eq_true, Bool.or_eq_true, decide_eq_true_eq,
    decide_eq_true_eq, decide_eq_true_eq, Text.isAlphanumeric, Bool.or_eq_true] at h
  rcases h with (((halpha | hnumeric) | rfl) | rfl) | rfl
  · exact isBlank_of_isNameStart (by rw [isNameStart, halpha, Bool.true_or])
  · rw [Text.isNumeric, Bool.or_eq_true] at hnumeric
    rcases hnumeric with hdigit | hnumeric
    · simp only [Char.isDigit, Bool.and_eq_true, decide_eq_true_eq] at hdigit
      have hrange : Text.Ranges.contains [(0x30, 0x39)] c = true :=
        Text.Ranges.contains_iff.2 ⟨_, List.mem_singleton_self _, hdigit⟩
      exact Text.Ranges.not_contains (by decide) hrange
    · exact Text.Ranges.not_contains (by decide +kernel) hnumeric
  · rfl
  · rfl
  · rfl

theorem IsName.isTight {name : String} (h : IsName name) : IsTight name.toList := by
  obtain ⟨c, r, hname, hc, hr⟩ := h.1
  rw [hname]
  refine ⟨⟨c, r, rfl, isBlank_of_isNameStart hc⟩, ?_⟩
  cases r using List.reverseRecOn with
  | nil => exact ⟨[], c, rfl, isBlank_of_isNameStart hc⟩
  | append_singleton r d => exact ⟨c :: r, d, rfl, isBlank_of_isNameChar (hr d (by simp))⟩

theorem isTight_quoteText (cs : List Char) : IsTight (Operand.quoteText cs) :=
  ⟨⟨'\'', _, rfl, rfl⟩, ⟨_, '\'', rfl, rfl⟩⟩

theorem isTight_operand {t : Token} {o : Operand} (h : IsOperand t o) (ht : IsPlain t) :
    IsTight o.chars := by
  cases h with
  | answer => exact IsName.isTight ht
  | context =>
    have hname := IsName.isTight ht
    rwa [String.toList_append] at hname
  | text s => exact isTight_quoteText _
  | number => exact ht.elim
  | truth => exact ⟨⟨'t', _, rfl, rfl⟩, ⟨"tru".toList, 'e', rfl, rfl⟩⟩
  | untruth => exact ⟨⟨'f', _, rfl, rfl⟩, ⟨"fals".toList, 'e', rfl, rfl⟩⟩
  | null => exact ⟨⟨'n', _, rfl, rfl⟩, ⟨"nul".toList, 'l', rfl, rfl⟩⟩

theorem isTight_bracketed {cs : List Char} (h : IsTight cs) (b : Bool) :
    IsTight (Expr.bracketed b cs) := by
  cases b with
  | true => exact ⟨⟨'(', _, rfl, rfl⟩, ⟨_, ')', rfl, rfl⟩⟩
  | false => exact h

theorem isTight_joined (sep : List Char) {xs : List (List Char)} (hne : xs ≠ [])
    (h : ∀ x ∈ xs, IsTight x) :
    IsTight (Expr.joined sep xs) := by
  induction xs with
  | nil => exact absurd rfl hne
  | cons x xs ih =>
    obtain ⟨hx, hxs⟩ := List.forall_mem_cons.1 h
    cases xs with
    | nil => exact hx
    | cons y ys =>
      rw [joined_cons (List.cons_ne_nil y ys)]
      exact hx.append sep (ih (List.cons_ne_nil y ys) hxs)

theorem isTight_call {name : String} (h : IsName name) (args : List Operand) :
    IsTight (Expr.call name args).chars := by
  have hclose : IsTight [')'] := ⟨⟨')', [], rfl, rfl⟩, ⟨[], ')', rfl, rfl⟩⟩
  have hcall := h.isTight.append (['('] ++ Expr.joined ", ".toList (args.map Operand.chars)) hclose
  simpa [Expr.chars] using hcall

theorem IsAtom.isTight (h : IsAtom ts e) (hts : ∀ t ∈ ts, IsPlain t) : IsTight e.chars := by
  cases h with
  | truth => exact ⟨⟨'t', _, rfl, rfl⟩, ⟨"tru".toList, 'e', rfl, rfl⟩⟩
  | untruth => exact ⟨⟨'f', _, rfl, rfl⟩, ⟨"fals".toList, 'e', rfl, rfl⟩⟩
  | present ho =>
    have hpresent : IsTight ['t'] := ⟨⟨'t', [], rfl, rfl⟩, ⟨[], 't', rfl, rfl⟩⟩
    exact (isTight_operand ho (hts _ (by simp))).append " presen".toList hpresent
  | missing ho =>
    have hmissing : IsTight ['g'] := ⟨⟨'g', [], rfl, rfl⟩, ⟨[], 'g', rfl, rfl⟩⟩
    exact (isTight_operand ho (hts _ (by simp))).append " missin".toList hmissing
  | compare op ho ho' =>
    have hboth := (isTight_operand ho (hts _ (by simp))).append ([' '] ++ op.symbol.toList ++ [' '])
      (isTight_operand ho' (hts _ (by simp)))
    simpa [Expr.chars] using hboth
  | callOfNone name => exact isTight_call (hts (.name name) (by simp)) []
  | call name => exact isTight_call (hts (.name name) (by simp)) _

theorem Connective.chars_build (k : Connective) (es : List Expr) :
    (k.build es).chars = Expr.joined (' ' :: (k.word.toList ++ [' '])) (es.map k.tight.chars) := by
  rw [← termChars_eq]
  cases k <;> rfl

/-- The terms of an expression have no blanks at either end of their texts. -/
structure HasTightTerms (e : Expr) : Prop where
  whole : IsTight e.chars
  terms (k : Connective) : ∀ f ∈ k.terms e, IsTight f.chars

theorem HasTightTerms.of_terms (h : IsTight e.chars) (hterms : ∀ k : Connective, k.terms e = [e]) :
    HasTightTerms e :=
  ⟨h, fun k f hf => by
    rw [hterms k, List.mem_singleton] at hf
    exact hf ▸ h⟩

/-- A connective between tight terms. -/
theorem HasTightTerms.build (k : Connective) (hne : k.terms e ≠ []) (he : HasTightTerms e)
    (hf : HasTightTerms f) :
    HasTightTerms (k.build (k.terms e ++ k.terms f)) := by
  have hall : ∀ t ∈ k.terms e ++ k.terms f, IsTight t.chars :=
    List.forall_mem_append.2 ⟨he.terms k, hf.terms k⟩
  have hwhole : IsTight (k.build (k.terms e ++ k.terms f)).chars := by
    rw [Connective.chars_build]
    refine isTight_joined _ (by simp [hne]) ?_
    rintro x hx
    obtain ⟨t, ht, rfl⟩ := List.mem_map.1 hx
    exact isTight_bracketed (hall t ht) _
  refine ⟨hwhole, fun k' t ht => ?_⟩
  cases k <;> cases k'
  · exact hall t ht
  · rw [List.mem_singleton.1 ht]
    exact hwhole
  · rw [List.mem_singleton.1 ht]
    exact hwhole
  · exact hall t ht

theorem isTight_not (h : IsTight e.chars) : IsTight (Expr.not e).chars := by
  have hnot {e : Expr} (h : IsTight e.chars) (b : Bool) :
      IsTight ("NOT ".toList ++ Expr.bracketed b e.chars) := by
    obtain ⟨r, c, hlast, hc⟩ := (isTight_bracketed h b).last
    rw [hlast]
    exact ⟨⟨'N', _, rfl, rfl⟩, ⟨"NOT ".toList ++ r, c, by simp, hc⟩⟩
  cases e with
  | present o =>
    have hpresent : (Expr.not (.present o)).chars = o.chars ++ " missing".toList := rfl
    have hchars : (Expr.present o).chars = o.chars ++ " present".toList := rfl
    rw [hpresent]
    rw [hchars] at h
    obtain ⟨c, r, hfirst, hc⟩ := h.first
    refine ⟨?_, ⟨o.chars ++ " missin".toList, 'g', by simp, rfl⟩⟩
    cases ho : o.chars with
    | nil =>
      -- the text would begin with the blank before the word
      rw [ho] at hfirst
      obtain ⟨rfl, -⟩ := List.cons.inj hfirst
      cases hc
    | cons d s =>
      rw [ho] at hfirst
      obtain ⟨rfl, -⟩ := List.cons.inj hfirst
      exact ⟨d, _, rfl, hc⟩
  | literal b => cases b <;> exact hnot h _
  | _ => exact hnot h _

/-- The tokens that an expression without numbers was read from can be written. -/
theorem Derives.isPlain {scanned : List (ℕ × Token)} {pos : ℕ} {cs : List Char}
    (h : Derives c d (kinds scanned) e) (hscan : scan pos cs = .ok scanned)
    (hnumbers : ∀ o ∈ e.operands, ∀ n, o ≠ .value (.number n)) :
    ∀ t ∈ kinds scanned, IsPlain t := by
  intro t ht
  cases t with
  | name name => exact isName_of_scan hscan ht
  | number x =>
    obtain ⟨n, hn⟩ := h.exists_number ht
    exact hnumbers _ hn n rfl
  | _ => trivial

theorem Derives.hasTightTerms (h : Derives c d ts e) (hts : ∀ t ∈ ts, IsPlain t) :
    HasTightTerms e := by
  induction h with
  | atom h => exact .of_terms (h.isTight hts) h.terms_eq
  | not h ih =>
    have hwhole := isTight_not (ih fun t ht => hts t (List.mem_cons_of_mem _ ht)).whole
    exact .of_terms hwhole fun k => by cases k <;> rfl
  | group h ih => exact ih fun t ht => hts t (by simp [ht])
  | unary h ih | conjunction h ih => exact ih hts
  | and h h' ih ih' =>
    have hleft := ih fun t ht => hts t (by simp [ht])
    have hright := ih' fun t ht => hts t (by simp [ht])
    exact hleft.build .and (h.isFlat .and).terms_ne_nil hright
  | or h h' ih ih' =>
    have hleft := ih fun t ht => hts t (by simp [ht])
    have hright := ih' fun t ht => hts t (by simp [ht])
    exact hleft.build .or (h.isFlat .or).terms_ne_nil hright

/-- The word for the fallback is read as the fallback. -/
theorem parseEdgeGuard_fallback {text : String} (h : text.map Char.toLower = fallbackGuard)
    (hlength : byteLength text.toList ≤ maxLength) (htrim : Text.trim text = text) :
    parseEdgeGuard (some text) = .ok .otherwise := by
  obtain ⟨ts, hts, hkinds⟩ := scans_fallback h 0
  obtain ⟨p, hp⟩ : ∃ p, ts = [(p, .otherwise)] := by
    obtain ⟨⟨p, t⟩, rfl, ht⟩ := List.map_eq_singleton_iff.1 hkinds
    exact ⟨p, by rw [show t = .otherwise from ht]⟩
  subst hp
  have hne : text ≠ "" := by
    rintro rfl
    exact absurd h (by decide +kernel)
  have htokens := tokens_eq_ok_iff.2 ⟨hlength, hts, (by decide : 1 ≤ maxTokens)⟩
  simp only [parseEdgeGuard, Option.map_some, htrim, Option.filter_some, hne, ne_eq,
    not_false_eq_true, decide_true, if_true, htokens]

/-- The text of an expression that was read, if it has no numbers and is not too long, is read as
this expression. -/
theorem parseEdgeGuard_shown {text : String} (h : parseExpr text = .ok e)
    (hnumbers : ∀ o ∈ e.operands, ∀ n, o ≠ .value (.number n))
    (hlength : byteLength e.shown.toList ≤ maxLength) :
    parseEdgeGuard (some e.shown) = .ok (.condition e) := by
  obtain ⟨-, ts, hscan, hcount, hderives⟩ := parseChars_eq_ok_iff.1 (parseExpr_eq_ok_iff.1 h)
  have hplain := hderives.isPlain hscan hnumbers
  obtain ⟨us, hshort, hagain, hspells⟩ := (hderives.restates hplain).phrase
  rw [expression_chars] at hspells
  obtain ⟨vs, hvs, rfl⟩ := hspells.scans 0
  have hchars : e.shown.toList = e.chars := String.toList_ofList
  have htight : IsTight e.shown.toList := hchars ▸ (hderives.hasTightTerms hplain).whole
  have htokens : tokens e.shown.toList = .ok vs := by
    rw [kinds, kinds, List.length_map, List.length_map] at hshort
    exact tokens_eq_ok_iff.2 ⟨hlength, hchars ▸ hvs, hshort.trans hcount⟩
  have hread : parseChars e.shown.toList = .ok e :=
    parseChars_eq_ok_iff.2 ⟨hlength, vs, hchars ▸ hvs, (tokens_eq_ok_iff.1 htokens).2.2, hagain⟩
  have hexpression : expression (byteLength e.shown.toList) vs = .ok e := by
    rw [parseChars, htokens] at hread
    exact hread
  have hne : e.shown ≠ "" := fun hempty => by
    obtain ⟨c, r, hfirst, -⟩ := htight.first
    rw [hempty] at hfirst
    cases hfirst
  simp only [parseEdgeGuard, Option.map_some, htight.trim_eq, Option.filter_some, hne, ne_eq,
    not_false_eq_true, decide_true, if_true, htokens]
  split
  · rename_i hts
    cases hts
  · rename_i p hts
    cases hts
    exact absurd rfl hagain.ne_otherwise
  · rename_i hts
    cases hts
    rw [hexpression]
    rfl

/-- A guard has no numbers in it. -/
def EdgeGuard.HasNoNumbers : EdgeGuard → Prop
  | .condition e => ∀ o ∈ e.operands, ∀ n, o ≠ .value (.number n)
  | _ => True

theorem compileEdgeGuard_eq_ok_iff {registry : Registry} {text : Option String} {g : EdgeGuard} :
    compileEdgeGuard registry text = .ok g ↔ parseEdgeGuard text = .ok g ∧
      g.check registry = .ok () := by
  unfold compileEdgeGuard
  constructor
  · intro h
    obtain ⟨g', hg', h⟩ := bind_eq_ok.1 h
    obtain ⟨⟨⟩, hcheck, h⟩ := bind_eq_ok.1 h
    cases h
    exact ⟨hg', hcheck⟩
  · rintro ⟨hg, hcheck⟩
    exact bind_eq_ok.2 ⟨g, hg, bind_eq_ok.2 ⟨(), hcheck, rfl⟩⟩

/-- The text of the guard of an edge, if it has no numbers and is not too long, compiles to this
guard. -/
theorem compileEdgeGuard_shown {registry : Registry} {text : Option String} {g : EdgeGuard}
    (h : compileEdgeGuard registry text = .ok g) (hg : g ≠ .always) (hnumbers : g.HasNoNumbers)
    (hlength : byteLength g.shown.toList ≤ maxLength) :
    compileEdgeGuard registry (some g.shown) = .ok g := by
  obtain ⟨hparse, hcheck⟩ := compileEdgeGuard_eq_ok_iff.1 h
  refine compileEdgeGuard_eq_ok_iff.2 ⟨?_, hcheck⟩
  rcases parseEdgeGuard_cases hparse with ⟨rfl, -⟩ | ⟨rfl, -⟩ | ⟨s, e, -, -, he, rfl⟩
  · exact absurd rfl hg
  · exact parseEdgeGuard_fallback (by decide +kernel) hlength (by decide)
  · exact parseEdgeGuard_shown he hnumbers hlength

end Shown

end Guard

end Parley

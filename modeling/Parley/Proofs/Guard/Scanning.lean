import Parley.Proofs.Collections
import Parley.Proofs.Guard.Reading

/-!
# What is scanned from the text of a guard

A piece of text is the same tokens in every guard in which a break comes after it.

* `Text.Ranges.apart`: sets of characters that have none in common;
* `Scans`: the tokens of a text, wherever it starts;
* `Spells`: the tokens of a piece of text before a break, with one lemma for each kind of piece;
* `IsName`, `isName_of_scan`: the texts that are names, and that the scanner takes no others.
-/

namespace Parley

/-! ### Characters -/

namespace Text.Ranges

theorem contains_iff {r : Ranges} {c : Char} :
    r.contains c = true ↔ ∃ p ∈ r, p.1 ≤ c.toNat ∧ c.toNat ≤ p.2 := by
  simp only [contains, List.any_eq_true, Bool.and_eq_true, decide_eq_true_eq]

/-- No character is in a range of both sets. -/
def apart (r s : Ranges) : Bool := r.all fun p => s.all fun q => Nat.blt p.2 q.1 || Nat.blt q.2 p.1

/-- Sets of characters whose ranges are apart have no character in common. -/
theorem not_contains {r s : Ranges} (h : r.apart s = true) {c : Char} (hc : r.contains c = true) :
    s.contains c = false := by
  rw [contains_iff] at hc
  obtain ⟨p, hp, hfrom, hto⟩ := hc
  rw [← Bool.not_eq_true, contains_iff]
  rintro ⟨q, hq, hfrom', hto'⟩
  have hapart := List.all_eq_true.1 (List.all_eq_true.1 h p hp) q hq
  simp only [Bool.or_eq_true, Nat.blt_eq] at hapart
  omega

end Text.Ranges

namespace Guard

/-- The characters that begin a name. -/
def nameStartRanges : Text.Ranges :=
  (0x41, 0x5a) :: (0x61, 0x7a) :: (0x5f, 0x5f) :: Text.alphabeticRanges

theorem nameStartRanges_contains {c : Char} (h : isNameStart c = true) :
    nameStartRanges.contains c = true := by
  rw [Text.Ranges.contains_iff]
  simp only [isNameStart, Text.isAlphabetic, Bool.or_eq_true, decide_eq_true_eq, Char.isAlpha,
    Char.isUpper, Char.isLower, Bool.and_eq_true] at h
  rcases h with ((h | h) | h) | rfl
  · exact ⟨(0x41, 0x5a), by simp [nameStartRanges], h⟩
  · exact ⟨(0x61, 0x7a), by simp [nameStartRanges], h⟩
  · obtain ⟨p, hp, hc⟩ := Text.Ranges.contains_iff.1 h
    exact ⟨p, by simp [nameStartRanges, hp], hc⟩
  · exact ⟨(0x5f, 0x5f), by simp [nameStartRanges], by decide⟩

/-- The characters of signs and quotes, and the one before a number. -/
def signs : List Char := ['=', '!', '<', '>', '&', '|', '(', ')', ',', '"', '\'', '-']

/-- The characters that separate tokens or begin others than names. -/
def otherRanges : Text.Ranges :=
  Text.blankRanges ++ (0x30, 0x39) :: signs.map fun d => (d.toNat, d.toNat)

theorem nameStartRanges_apart : nameStartRanges.apart otherRanges = true := by
  decide +kernel

theorem otherRanges_of_isNameStart {c : Char} (h : isNameStart c = true) :
    otherRanges.contains c = false :=
  Text.Ranges.not_contains nameStartRanges_apart (nameStartRanges_contains h)

theorem isBlank_of_isNameStart {c : Char} (h : isNameStart c = true) : Text.isBlank c = false := by
  have hother := otherRanges_of_isNameStart h
  rw [otherRanges, Text.Ranges.contains_append, Bool.or_eq_false_iff] at hother
  exact hother.1

theorem isDigit_of_isNameStart {c : Char} (h : isNameStart c = true) : c.isDigit = false := by
  have hother := otherRanges_of_isNameStart h
  rw [← Bool.not_eq_true, Text.Ranges.contains_iff] at hother
  rw [← Bool.not_eq_true]
  intro h
  simp only [Char.isDigit, Bool.and_eq_true, decide_eq_true_eq] at h
  exact hother ⟨(0x30, 0x39), List.mem_append_right _ List.mem_cons_self, h⟩

theorem not_mem_signs_of_isNameStart {c : Char} (h : isNameStart c = true) : c ∉ signs := by
  have hother := otherRanges_of_isNameStart h
  intro hc
  rw [← Bool.not_eq_true, Text.Ranges.contains_iff] at hother
  exact hother ⟨_, List.mem_append_right _ (List.mem_cons_of_mem _ (List.mem_map_of_mem hc)),
    Nat.le_refl _, Nat.le_refl _⟩

/-! ### Names -/

/-- A letter or a line and then characters of names. -/
def IsWord (cs : List Char) : Prop :=
  ∃ c r, cs = c :: r ∧ isNameStart c = true ∧ ∀ d ∈ r, isNameChar d = true

/-- A word that is no keyword. -/
def IsName (name : String) : Prop := IsWord name.toList ∧ Token.ofWord name = .name name

theorem ofWord_eq_name {word name : String} (h : Token.ofWord word = .name name) : word = name := by
  unfold Token.ofWord at h
  split at h <;> cases h
  rfl

/-- A name, or the word for the fallback: tokens that nothing but a word stands for. -/
def Token.isSpelled : Token → Bool
  | .name _ => Bool.true
  | .otherwise => Bool.true
  | _ => Bool.false

theorem isSpelled_of_pairToken? {c d : Char} {t : Token} (h : pairToken? c d = some t) :
    t.isSpelled = false := by
  unfold pairToken? at h
  split_ifs at h <;> cases h <;> rfl

theorem isSpelled_of_singleToken? {c : Char} {t : Token} (h : singleToken? c = some t) :
    t.isSpelled = false := by
  unfold singleToken? at h
  split_ifs at h <;> cases h <;> rfl

/-- At the front of a text stands a blank, a sign, a quoted text or a number, or else a word, which
is taken as far as it goes. -/
theorem lexemeFrom_cases {c : Char} {r : List Char} {l : Lexeme r} (h : lexemeFrom c r = .ok l) :
    (Text.isBlank c = true ∧ l.token = none ∧ l.rest.1 = r) ∨
      (∃ t, l.token = some t ∧ t.isSpelled = false) ∨
      isNameStart c = true ∧
        l.token = some (.ofWord (String.ofList (c :: r.takeWhile isNameChar))) ∧
        l.rest.1 = r.dropWhile isNameChar := by
  by_cases hblank : Text.isBlank c = true
  · rw [lexemeFrom, if_pos hblank] at h
    cases h
    exact .inl ⟨hblank, rfl, rfl⟩
  rw [lexemeFrom, if_neg hblank] at h
  split at h
  · rename_i hsingle
    cases h
    exact .inr (.inl ⟨_, rfl, isSpelled_of_singleToken? hsingle⟩)
  by_cases hquote : c = '"' ∨ c = '\''
  · rw [if_pos hquote] at h
    split at h <;> cases h
    exact .inr (.inl ⟨_, rfl, rfl⟩)
  rw [if_neg hquote] at h
  by_cases hnumber : startsNumber c r = true
  · rw [if_pos hnumber] at h
    dsimp only at h
    split at h <;> cases h
    exact .inr (.inl ⟨_, rfl, rfl⟩)
  rw [if_neg hnumber] at h
  by_cases hstart : isNameStart c = true
  · rw [if_pos hstart] at h
    cases h
    exact .inr (.inr ⟨hstart, rfl, rfl⟩)
  · rw [if_neg hstart] at h
    cases h

theorem lexeme_cases {c : Char} {r : List Char} {l : Lexeme r} (h : lexeme c r = .ok l) :
    (Text.isBlank c = true ∧ l.token = none ∧ l.rest.1 = r) ∨
      (∃ t, l.token = some t ∧ t.isSpelled = false) ∨
      isNameStart c = true ∧
        l.token = some (.ofWord (String.ofList (c :: r.takeWhile isNameChar))) ∧
        l.rest.1 = r.dropWhile isNameChar := by
  unfold lexeme at h
  split at h
  · exact lexemeFrom_cases h
  · split at h
    · rename_i hpair
      cases h
      exact .inr (.inl ⟨_, rfl, isSpelled_of_pairToken? hpair⟩)
    · exact lexemeFrom_cases h

theorem isName_of_lexeme {c : Char} {r : List Char} {l : Lexeme r} {name : String}
    (h : lexeme c r = .ok l) (hname : l.token = some (.name name)) : IsName name := by
  rcases lexeme_cases h with ⟨-, hnone, -⟩ | ⟨t, ht, hspelled⟩ | ⟨hstart, hword, -⟩
  · cases hnone.symm.trans hname
  · cases ht.symm.trans hname
    cases hspelled
  · have hword := Option.some.inj (hword.symm.trans hname)
    obtain rfl := ofWord_eq_name hword
    exact ⟨⟨c, _, String.toList_ofList, hstart, fun d hd => List.mem_takeWhile_imp hd⟩, hword⟩

/-- The scanner takes nothing for a name that is none. -/
theorem isName_of_scan {pos : ℕ} {cs : List Char} {ts : Tokens} {name : String}
    (h : scan pos cs = .ok ts) (hname : .name name ∈ kinds ts) : IsName name := by
  fun_induction scan pos cs generalizing ts with
  | case1 =>
    cases h
    cases hname
  | case2 | case3 => cases h
  | case4 _ _ _ _ _ _ _ hscan _ ih =>
    cases h
    exact ih hscan hname
  | case5 _ _ _ _ _ _ _ hscan _ hlexeme ih =>
    cases h
    rcases List.mem_cons.1 hname with hfirst | hrest
    · exact isName_of_lexeme hlexeme (congrArg some hfirst.symm)
    · exact ih hscan hrest

/-! ### Texts of tokens -/

/-- The tokens of a text, wherever it starts. -/
def Scans (cs : List Char) (ts : List Token) : Prop :=
  ∀ pos, ∃ us, scan pos cs = .ok us ∧ kinds us = ts

theorem scans_nil : Scans [] [] := fun _ => ⟨[], by rw [scan], rfl⟩

theorem Scans.of_lexeme {c : Char} {r s : List Char} {t : Option Token} {w : ℕ}
    {hs : s.length ≤ r.length} {ts : List Token} (h : lexeme c r = .ok ⟨t, w, s, hs⟩)
    (hrest : Scans s ts) : Scans (c :: r) (t.toList ++ ts) := by
  intro pos
  obtain ⟨us, hscan, hkinds⟩ := hrest (pos + w)
  rw [scan, h]
  simp only [hscan]
  cases t with
  | none => exact ⟨us, rfl, hkinds⟩
  | some t => exact ⟨(pos, t) :: us, rfl, congrArg _ hkinds⟩

/-- Nothing comes next, or a blank, a bracket or a comma. -/
def IsBreak (cs : List Char) : Prop := ∀ c ∈ cs.head?, c ∈ [' ', '(', ')', ',']

/-- The tokens of a piece of text when a break comes next. -/
def Spells (cs : List Char) (ts : List Token) : Prop :=
  ∀ rest us, IsBreak rest → Scans rest us → Scans (cs ++ rest) (ts ++ us)

namespace Spells

variable {cs ds : List Char} {ts us : List Token}

theorem scans (h : Spells cs ts) : Scans cs ts := by
  simpa using h [] [] nofun scans_nil

theorem append (h : Spells cs ts) (hbreak : IsBreak ds) (h' : Spells ds us) :
    Spells (cs ++ ds) (ts ++ us) := by
  intro rest vs hrest hvs
  rw [List.append_assoc, List.append_assoc]
  refine h _ _ ?_ (h' rest vs hrest hvs)
  cases ds with
  | nil => exact hrest
  | cons d ds => exact hbreak

end Spells

theorem pairToken?_eq_none {c : Char} (h : c ∉ ['=', '!', '<', '>', '&', '|']) (d : Char) :
    pairToken? c d = none := by
  simp only [List.mem_cons, List.not_mem_nil, or_false, not_or] at h
  simp only [pairToken?, h, if_false, false_and, ite_self]

theorem lexeme_eq_lexemeFrom {c : Char} {r : List Char} (h : ∀ d ∈ r.head?, pairToken? c d = none) :
    lexeme c r = lexemeFrom c r := by
  cases r with
  | nil => rfl
  | cons d r => simp only [lexeme, h d rfl]

theorem lexeme_pair {c d : Char} {t : Token} (h : pairToken? c d = some t) (r : List Char) :
    lexeme c (d :: r) = .ok ⟨some t, c.utf8Size + d.utf8Size, r, by simp⟩ := by
  simp only [lexeme, h]

theorem lexemeFrom_sign {c : Char} {t : Token} (hblank : Text.isBlank c = false)
    (ht : singleToken? c = some t) (r : List Char) :
    lexemeFrom c r = .ok ⟨some t, c.utf8Size, r, Nat.le_refl _⟩ := by
  simp only [lexemeFrom, hblank, ht, Bool.false_eq_true, if_false]

namespace Spells

variable {cs : List Char} {ts : List Token}

theorem blank (h : Spells cs ts) : Spells (' ' :: cs) ts := by
  intro rest us hrest hus
  have hlexeme : lexeme ' ' (cs ++ rest) = .ok ⟨none, ' '.utf8Size, cs ++ rest, Nat.le_refl _⟩ := by
    rw [lexeme_eq_lexemeFrom fun d _ => pairToken?_eq_none (by decide) d]
    rfl
  exact (h rest us hrest hus).of_lexeme hlexeme

theorem sign {c : Char} {t : Token} (hpair : c ∉ ['=', '!', '<', '>', '&', '|'])
    (hblank : Text.isBlank c = false) (ht : singleToken? c = some t) (h : Spells cs ts) :
    Spells (c :: cs) (t :: ts) := by
  intro rest us hrest hus
  have hlexeme := lexemeFrom_sign hblank ht (cs ++ rest)
  rw [← lexeme_eq_lexemeFrom fun d _ => pairToken?_eq_none hpair d] at hlexeme
  exact (h rest us hrest hus).of_lexeme hlexeme

theorem nil : Spells [] [] := fun _ _ _ hus => hus

theorem openParen (h : Spells cs ts) : Spells ('(' :: cs) (.openParen :: ts) :=
  h.sign (by decide) (by decide) rfl

theorem closeParen : Spells [')'] [.closeParen] := nil.sign (by decide) (by decide) rfl

theorem comma (h : Spells cs ts) : Spells (',' :: cs) (.comma :: ts) :=
  h.sign (by decide) (by decide) rfl

end Spells

theorem isNameChar_of_mem_breaks {c : Char} (h : c ∈ [' ', '(', ')', ',']) :
    isNameChar c = false := by
  simp only [List.mem_cons, List.not_mem_nil, or_false] at h
  rcases h with rfl | rfl | rfl | rfl <;> decide +kernel

theorem span_isNameChar {cs rest : List Char} (hcs : ∀ c ∈ cs, isNameChar c = true)
    (hrest : IsBreak rest) :
    (cs ++ rest).takeWhile isNameChar = cs ∧ (cs ++ rest).dropWhile isNameChar = rest :=
  span_of_head hcs fun c hc => isNameChar_of_mem_breaks (hrest c hc)

theorem lexemeFrom_word {c : Char} {cs rest : List Char} (hc : isNameStart c = true)
    (hcs : ∀ d ∈ cs, isNameChar d = true) (hrest : IsBreak rest) :
    ∃ w h, lexemeFrom c (cs ++ rest) =
      .ok ⟨some (.ofWord (String.ofList (c :: cs))), w, rest, h⟩ := by
  have hsigns := not_mem_signs_of_isNameStart hc
  simp only [signs, List.mem_cons, List.not_mem_nil, or_false, not_or] at hsigns
  have hsingle : singleToken? c = none := by simp only [singleToken?, hsigns, if_false]
  have hnumber : startsNumber c (cs ++ rest) = false := by
    simp only [startsNumber, isDigit_of_isNameStart hc, hsigns, decide_false, Bool.false_and,
      Bool.or_false]
  obtain ⟨htake, hdrop⟩ := span_isNameChar hcs hrest
  simp only [lexemeFrom, isBlank_of_isNameStart hc, hsingle, hsigns, hnumber, hc, htake,
    hdrop, or_self, Bool.false_eq_true, if_false, if_true]
  exact ⟨byteLength (c :: cs), by simp, rfl⟩

theorem spells_word {cs : List Char} (h : IsWord cs) : Spells cs [.ofWord (String.ofList cs)] := by
  obtain ⟨c, cs, rfl, hc, hcs⟩ := h
  intro rest us hrest hus
  obtain ⟨w, hle, hlexeme⟩ := lexemeFrom_word hc hcs hrest
  have hpair : c ∉ ['=', '!', '<', '>', '&', '|'] := fun h =>
    not_mem_signs_of_isNameStart hc (by simp only [signs, List.mem_cons] at h ⊢; tauto)
  rw [← lexeme_eq_lexemeFrom fun d _ => pairToken?_eq_none hpair d] at hlexeme
  exact hus.of_lexeme hlexeme

theorem spells_name {name : String} (h : IsName name) : Spells name.toList [.name name] := by
  have hword := spells_word h.1
  rwa [String.ofList_toList, h.2] at hword

theorem spells_compare (op : Comparison) : Spells op.symbol.toList [.compare op] := by
  intro rest us hrest hus
  -- a sign of one character is not taken together with a break
  have hpair : ∀ c, c = '<' ∨ c = '>' → ∀ d ∈ rest.head?, pairToken? c d = none := by
    intro c hc d hd
    have hd := hrest d hd
    simp only [List.mem_cons, List.not_mem_nil, or_false] at hd
    rcases hc with rfl | rfl <;> rcases hd with rfl | rfl | rfl | rfl <;> rfl
  cases op with
  | lt =>
    have hlexeme := lexemeFrom_sign (c := '<') (t := .compare .lt) (by decide) rfl rest
    rw [← lexeme_eq_lexemeFrom (hpair '<' (.inl rfl))] at hlexeme
    exact hus.of_lexeme hlexeme
  | gt =>
    have hlexeme := lexemeFrom_sign (c := '>') (t := .compare .gt) (by decide) rfl rest
    rw [← lexeme_eq_lexemeFrom (hpair '>' (.inr rfl))] at hlexeme
    exact hus.of_lexeme hlexeme
  | eq => exact hus.of_lexeme (lexeme_pair (c := '=') (d := '=') rfl rest)
  | ne => exact hus.of_lexeme (lexeme_pair (c := '!') (d := '=') rfl rest)
  | le => exact hus.of_lexeme (lexeme_pair (c := '<') (d := '=') rfl rest)
  | ge => exact hus.of_lexeme (lexeme_pair (c := '>') (d := '=') rfl rest)

/-! ### Quoted texts -/

/-- The characters of a text as they stand between quotes. -/
def escaped (s : List Char) : List Char :=
  s.flatMap fun c => if c = '\\' ∨ c = '\'' then ['\\', c] else [c]

theorem scanQuoted_escaped (s rest : List Char) :
    ∃ n, scanQuoted '\'' (escaped s ++ '\'' :: rest) = some (s, n, rest) := by
  induction s with
  | nil => cases rest <;> exact ⟨_, rfl⟩
  | cons c s ih =>
    obtain ⟨n, ih⟩ := ih
    by_cases hc : c = '\\' ∨ c = '\''
    · have hcons : escaped (c :: s) = '\\' :: c :: escaped s := by simp [escaped, hc]
      refine ⟨1 + c.utf8Size + n, ?_⟩
      simp only [hcons, List.cons_append, scanQuoted, if_true, ih, Option.map_some]
    · have hcons : escaped (c :: s) = c :: escaped s := by simp [escaped, hc]
      rw [not_or] at hc
      refine ⟨c.utf8Size + n, ?_⟩
      rw [hcons, List.cons_append]
      -- there is a next character: of the text, or the closing quote
      obtain ⟨d, r, hr⟩ := List.exists_cons_of_ne_nil (l := escaped s ++ '\'' :: rest) (by simp)
      rw [hr] at ih ⊢
      simp only [scanQuoted, hc, if_false, ih, Option.map_some]

theorem spells_quoteText (s : String) : Spells (Operand.quoteText s.toList) [.text s] := by
  intro rest us hrest hus
  obtain ⟨n, hscan⟩ := scanQuoted_escaped s.toList rest
  have hlexeme : ∃ w h, lexeme '\'' (escaped s.toList ++ '\'' :: rest) =
      .ok ⟨some (.text s), w, rest, h⟩ := by
    rw [lexeme_eq_lexemeFrom fun d _ => pairToken?_eq_none (by decide) d]
    have hblank : Text.isBlank '\'' = false := by decide
    have hsingle : singleToken? '\'' = none := rfl
    simp only [lexemeFrom, hblank, hsingle, or_true, Bool.false_eq_true, if_false, if_true]
    split
    · rename_i hnone
      rw [hscan] at hnone
      cases hnone
    · rename_i hsome
      rw [hscan] at hsome
      cases hsome
      rw [String.ofList_toList]
      exact ⟨_, by rw [List.length_append, List.length_cons]; omega, rfl⟩
  obtain ⟨w, hle, hlexeme⟩ := hlexeme
  have htext : Operand.quoteText s.toList ++ rest = '\'' :: (escaped s.toList ++ '\'' :: rest) := by
    simp [Operand.quoteText, escaped]
  rw [htext]
  exact hus.of_lexeme hlexeme

end Guard

end Parley

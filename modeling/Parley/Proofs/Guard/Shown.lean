import Parley.Proofs.Guard.Scanning

/-!
# The text of a guard reads back

The text of an expression that was read is the same expression again.

* `Phrase.chars`, `Shows`: the text of an expression as a phrase, and tokens that it spells and that
  derive it;
* `Connective.shows_loose`: a chain of terms;
* `Restates`, `Derives.restates`: what was derived can be written with no more tokens, brackets and
  negations;
* `parse_shown`: texts.
-/

namespace Parley.Guard

variable {c : Phrase} {d n m : ℕ} {ts us : List Token} {e f : Expr}

/-! ### Atoms -/

/-- A token other than a number, and a name that reads as this name. -/
def IsPlain : Token → Prop
  | .name name => IsName name
  | .number _ => False
  | _ => True

theorem isBreak_cons (ch : Char) (cs : List Char) (h : ch ∈ [' ', '(', ')', ',']) :
    IsBreak (ch :: cs) := by
  rintro d ⟨⟩
  exact h

theorem spells_keyword {word : String} {t : Token} (hne : word.toList ≠ [])
    (hletters : word.toList.all Char.isAlpha = true) (ht : Token.ofWord word = t) :
    Spells word.toList [t] := by
  have hword : IsWord word.toList := by
    obtain ⟨ch, r, hr⟩ := List.exists_cons_of_ne_nil hne
    rw [hr] at hletters ⊢
    rw [List.all_eq_true] at hletters
    refine ⟨ch, r, rfl, ?_, fun d hd => ?_⟩
    · simp [isNameStart, Text.isAlphabetic, hletters ch (by simp)]
    · simp [isNameChar, Text.isAlphanumeric, Text.isAlphabetic, hletters d (by simp [hd])]
  have h := spells_word hword
  rwa [String.ofList_toList, ht] at h

theorem spells_true : Spells "true".toList [.true] := spells_keyword (by decide) rfl (by cbv)

theorem spells_false : Spells "false".toList [.false] := spells_keyword (by decide) rfl (by cbv)

theorem spells_null : Spells "null".toList [.null] := spells_keyword (by decide) rfl (by cbv)

theorem spells_operand {t : Token} {o : Operand} (h : IsOperand t o) (ht : IsPlain t) :
    Spells o.chars [t] := by
  cases h with
  | answer => exact spells_name ht
  | context =>
    have hname := spells_name ht
    rwa [String.toList_append] at hname
  | text s => exact spells_quoteText s
  | number => exact ht.elim
  | truth => exact spells_true
  | untruth => exact spells_false
  | null => exact spells_null

theorem joined_cons {sep x : List Char} {xs : List (List Char)} (h : xs ≠ []) :
    Expr.joined sep (x :: xs) = x ++ (sep ++ Expr.joined sep xs) := by
  cases xs with
  | nil => contradiction
  | cons y ys => exact List.append_assoc x sep _

theorem IsOperands.ne_nil {os : List Operand} (h : IsOperands ts os) : os ≠ [] := by
  cases h <;> exact List.cons_ne_nil _ _

theorem spells_operands {os : List Operand} (h : IsOperands ts os) (hts : ∀ t ∈ ts, IsPlain t) :
    Spells (Expr.joined ", ".toList (os.map Operand.chars)) ts := by
  induction h with
  | one ho => exact spells_operand ho (hts _ (by simp))
  | more ho hos ih =>
    have hrest := ih fun t ht => hts t (by simp [ht])
    have hsep : ", ".toList = [',', ' '] := rfl
    rw [hsep] at hrest ⊢
    rw [List.map_cons, joined_cons (by simpa using hos.ne_nil)]
    exact (spells_operand ho (hts _ (by simp))).append (isBreak_cons _ _ (by simp))
      hrest.blank.comma

theorem IsAtom.spells (h : IsAtom ts e) (hts : ∀ t ∈ ts, IsPlain t) : Spells e.chars ts := by
  cases h with
  | truth => exact spells_true
  | untruth => exact spells_false
  | present ho =>
    have hpresent : Spells "present".toList [.present] := spells_keyword (by decide) rfl (by cbv)
    exact (spells_operand ho (hts _ (by simp))).append (isBreak_cons ' ' _ (by simp)) hpresent.blank
  | missing ho =>
    have hmissing : Spells "missing".toList [.missing] := spells_keyword (by decide) rfl (by cbv)
    exact (spells_operand ho (hts _ (by simp))).append (isBreak_cons ' ' _ (by simp)) hmissing.blank
  | compare op ho ho' =>
    have hright := (spells_operand ho' (hts _ (by simp))).blank
    have hop := ((spells_compare op).append (isBreak_cons _ _ (by simp)) hright).blank
    have hcompare := (spells_operand ho (hts _ (by simp))).append (isBreak_cons _ _ (by simp)) hop
    simpa [Expr.chars] using hcompare
  | callOfNone name =>
    have hname : Spells name.toList [.name name] := spells_name (hts (.name name) (by simp))
    have hcall := hname.append (isBreak_cons _ _ (by simp)) Spells.closeParen.openParen
    simpa [Expr.chars, Expr.joined] using hcall
  | call name hos =>
    have hname : Spells name.toList [.name name] := spells_name (hts (.name name) (by simp))
    have hargs := spells_operands hos fun t ht => hts t (by simp [ht])
    have hcall := hname.append (isBreak_cons _ _ (by simp))
      (hargs.append (isBreak_cons _ _ (by simp)) Spells.closeParen).openParen
    simpa [Expr.chars] using hcall

/-! ### Phrases -/

/-- What binds no tighter than this stands in brackets. -/
def Phrase.level : Phrase → ℕ
  | .expression => 0
  | .conjunction => 1
  | .unary => 2

/-- The text of an expression as a phrase. -/
def Phrase.chars (c : Phrase) (e : Expr) : List Char :=
  Expr.bracketed (e.precedence ≤ c.level) e.chars

/-- Tokens that derive an expression and that its text as a phrase spells. -/
structure Shows (c : Phrase) (d : ℕ) (us : List Token) (e : Expr) : Prop where
  derives : Derives c d us e
  spells : Spells (c.chars e) us

theorem Derives.mono (h : Derives c d ts e) {d' : ℕ} (hle : d ≤ d') : Derives c d' ts e := by
  induction h generalizing d' with
  | conjunction _ ih => exact .conjunction (ih hle)
  | or _ _ ih ih' => exact .or (ih hle) (ih' hle)
  | unary _ ih => exact .unary (ih hle)
  | and _ _ ih ih' => exact .and (ih hle) (ih' hle)
  | not _ ih =>
    obtain ⟨d', rfl⟩ := Nat.exists_eq_succ_of_ne_zero (Nat.ne_zero_of_lt hle)
    exact .not (ih (Nat.le_of_succ_le_succ hle))
  | group _ ih =>
    obtain ⟨d', rfl⟩ := Nat.exists_eq_succ_of_ne_zero (Nat.ne_zero_of_lt hle)
    exact .group (ih (Nat.le_of_succ_le_succ hle))
  | atom hatom => exact .atom hatom

theorem Shows.succ (h : Shows c d us e) : Shows c (d + 1) us e :=
  ⟨h.derives.mono (Nat.le_succ d), h.spells⟩

namespace Chain

variable {sep : Token} {P Q : List Token → Expr → Prop} {es fs : List Expr}

theorem imp (h : Chain sep P ts es) (hP : ∀ us e, P us e → Q us e) : Chain sep Q ts es := by
  induction h with
  | one h => exact .one (hP _ _ h)
  | more h _ ih => exact .more (hP _ _ h) ih

theorem ne_nil (h : Chain sep P ts es) : es ≠ [] := by
  cases h <;> exact List.cons_ne_nil _ _

theorem singleton_iff : Chain sep P ts [e] ↔ P ts e := by
  constructor
  · intro h
    cases h with
    | one h => exact h
    | more _ h => exact absurd rfl h.ne_nil
  · exact .one

theorem append (h : Chain sep P ts es) (h' : Chain sep P us fs) :
    Chain sep P (ts ++ sep :: us) (es ++ fs) := by
  induction h with
  | one h => exact .more h h'
  | more h _ ih =>
    rw [List.append_assoc]
    exact .more h ih

/-- The tokens of a chain are spelled by the texts of its parts with the word of a connective
between them. -/
theorem spells {word : List Char} {text : Expr → List Char} (hword : Spells word [sep])
    (hP : ∀ us e, P us e → Spells (text e) us) (h : Chain sep P ts es) :
    Spells (Expr.joined (' ' :: (word ++ [' '])) (es.map text)) ts := by
  induction h with
  | one h => exact hP _ _ h
  | more h hrest ih =>
    rw [List.map_cons, joined_cons (by simpa using hrest.ne_nil)]
    refine (hP _ _ h).append (isBreak_cons _ _ (by simp)) ?_
    simpa using (hword.append (isBreak_cons _ _ (by simp)) ih.blank).blank

end Chain

/-! ### Connectives -/

namespace Connective

variable {k : Connective} {es : List Expr}

/-- The phrases between which a connective stands. -/
def tight : Connective → Phrase
  | .and => .unary
  | .or => .conjunction

/-- The phrases that a connective makes. -/
def loose : Connective → Phrase
  | .and => .conjunction
  | .or => .expression

def word : Connective → String
  | .and => "AND"
  | .or => "OR"

theorem spells_word (k : Connective) : Spells k.word.toList [k.token] := by
  cases k <;> exact spells_keyword (by decide) rfl (by cbv)

theorem derives_loose_iff :
    Derives k.loose d ts e ↔ ∃ es, Chain k.token (Derives k.tight d) ts es ∧
      k.join es = some e := by
  cases k with
  | and => exact derives_conjunction_iff
  | or => exact derives_expression_iff

theorem termChars_eq (c : Phrase) (es : List Expr) :
    Expr.termChars c.level es = es.map c.chars := by
  induction es with
  | nil => rfl
  | cons e es ih => rw [Expr.termChars, ih, List.map_cons, Phrase.chars]

theorem loose_chars_build (k : Connective) (es : List Expr) :
    k.loose.chars (k.build es) =
      Expr.joined (' ' :: (k.word.toList ++ [' '])) (es.map k.tight.chars) := by
  rw [← termChars_eq]
  cases k <;> rfl

/-- An expression without the connective stands alone as it stands beside it. -/
theorem loose_chars_eq (h : k.terms e = [e]) : k.loose.chars e = k.tight.chars e := by
  cases k <;> cases e <;> try rfl
  -- the terms of a conjunction or disjunction are smaller than it
  all_goals
    have hsize := congrArg sizeOf h
    simp only [terms, Expr.conjuncts, Expr.disjuncts, List.cons.sizeOf_spec, List.nil.sizeOf_spec,
      Expr.and.sizeOf_spec, Expr.or.sizeOf_spec] at hsize
    omega

theorem IsFlat.join_terms (h : k.IsFlat e) : k.join (k.terms e) = some e := by
  have hterms : (k.terms e).flatMap k.terms = k.terms e := by
    rw [List.flatMap_congr h.terms_eq]
    exact List.flatMap_singleton' _
  rw [← h.join_singleton, join, join, List.flatMap_singleton, hterms]

/-- A chain of the terms of an expression is the expression. -/
theorem shows_loose (he : k.IsFlat e) (h : Chain k.token (Shows k.tight d) us (k.terms e)) :
    Shows k.loose d us e := by
  refine ⟨derives_loose_iff.2 ⟨_, h.imp fun _ _ => Shows.derives, he.join_terms⟩, ?_⟩
  rcases k.terms_cases e with halone | hbuild
  · rw [halone, Chain.singleton_iff] at h
    rw [loose_chars_eq halone]
    exact h.spells
  · rw [hbuild, loose_chars_build]
    exact h.spells k.spells_word fun _ _ => Shows.spells

end Connective

/-! ### Numbers -/

theorem operandsOf_append (es fs : List Expr) :
    Expr.operandsOf (es ++ fs) = Expr.operandsOf es ++ Expr.operandsOf fs := by
  induction es with
  | nil => rfl
  | cons e es ih => rw [List.cons_append, Expr.operandsOf, Expr.operandsOf, ih, List.append_assoc]

theorem operandsOf_terms (k : Connective) (e : Expr) :
    Expr.operandsOf (k.terms e) = e.operands := by
  rcases k.terms_cases e with h | h
  · rw [h, Expr.operandsOf, Expr.operandsOf, List.append_nil]
  · conv_rhs => rw [h]
    cases k <;> rw [Connective.build, Expr.operands]

theorem operands_build (k : Connective) (e f : Expr) :
    (k.build (k.terms e ++ k.terms f)).operands = e.operands ++ f.operands := by
  rw [← operandsOf_terms k e, ← operandsOf_terms k f, ← operandsOf_append]
  cases k <;> rw [Connective.build, Expr.operands]

theorem IsOperand.exists_number {x : Binary64} {o : Operand} (h : IsOperand (.number x) o) :
    ∃ n, o = .value (.number n) := by
  cases h with
  | number => exact ⟨_, rfl⟩

theorem IsOperands.exists_number {os : List Operand} (h : IsOperands ts os) {x : Binary64}
    (hx : .number x ∈ ts) :
    ∃ n, .value (.number n) ∈ os := by
  induction h with
  | one ho =>
    obtain rfl := List.mem_singleton.1 hx
    obtain ⟨n, rfl⟩ := ho.exists_number
    exact ⟨n, List.mem_singleton_self _⟩
  | more ho _ ih =>
    rcases List.mem_cons.1 hx with rfl | hx
    · obtain ⟨n, rfl⟩ := ho.exists_number
      exact ⟨n, List.mem_cons_self⟩
    · obtain ⟨n, hn⟩ := ih (by simpa using hx)
      exact ⟨n, List.mem_cons_of_mem _ hn⟩

theorem IsAtom.exists_number (h : IsAtom ts e) {x : Binary64} (hx : .number x ∈ ts) :
    ∃ n, .value (.number n) ∈ e.operands := by
  cases h with
  | truth | untruth | callOfNone => simp at hx
  | present ho | missing ho =>
    simp only [List.mem_cons, reduceCtorEq, List.not_mem_nil, or_false] at hx
    obtain ⟨n, rfl⟩ := (hx ▸ ho).exists_number
    exact ⟨n, by simp [Expr.operands]⟩
  | compare op ho ho' =>
    simp only [List.mem_cons, reduceCtorEq, List.not_mem_nil, or_false, false_or] at hx
    rcases hx with hx | hx
    · obtain ⟨n, rfl⟩ := (hx ▸ ho).exists_number
      exact ⟨n, by simp [Expr.operands]⟩
    · obtain ⟨n, rfl⟩ := (hx ▸ ho').exists_number
      exact ⟨n, by simp [Expr.operands]⟩
  | call name hos =>
    obtain ⟨n, hn⟩ := hos.exists_number (x := x) (by simpa using hx)
    exact ⟨n, by simpa [Expr.operands] using hn⟩

/-- The number tokens of a guard are among the operands of its expression. -/
theorem Derives.exists_number (h : Derives c d ts e) {x : Binary64} (hx : .number x ∈ ts) :
    ∃ n, .value (.number n) ∈ e.operands := by
  have hjoined : ∀ (k : Connective) {e f : Expr} {ts us : List Token},
      (.number x ∈ ts → ∃ n, .value (.number n) ∈ e.operands) →
      (.number x ∈ us → ∃ n, .value (.number n) ∈ f.operands) → .number x ∈ ts ++ k.token :: us →
      ∃ n, .value (.number n) ∈ (k.build (k.terms e ++ k.terms f)).operands := by
    intro k e f ts us hts hus hx
    rw [operands_build]
    rcases List.mem_append.1 hx with hx | hx
    · obtain ⟨n, hn⟩ := hts hx
      exact ⟨n, List.mem_append_left _ hn⟩
    · obtain ⟨n, hn⟩ := hus (by cases k <;> simpa [Connective.token] using hx)
      exact ⟨n, List.mem_append_right _ hn⟩
  induction h with
  | conjunction _ ih | unary _ ih => exact ih hx
  | or _ _ ih ih' => exact hjoined .or ih ih' hx
  | and _ _ ih ih' => exact hjoined .and ih ih' hx
  | not _ ih => simpa [Expr.operands] using ih (by simpa using hx)
  | group _ ih => exact ih (by simpa using hx)
  | atom hatom => exact hatom.exists_number hx

/-! ### Writing again -/

/-- An expression can be written as a phrase with at most so many tokens, and so can its terms,
which have to stand between other terms; a disjunction in an expression has no brackets, so it is no
term of a conjunction. -/
structure Restates (c : Phrase) (d n : ℕ) (e : Expr) : Prop where
  phrase : ∃ us, us.length ≤ n ∧ Shows c d us e
  disjuncts : ∃ us, us.length ≤ n ∧ Chain .or (Shows .conjunction d) us e.disjuncts
  conjuncts : c ≠ .expression ∨ e.disjuncts = [e] →
    ∃ us, us.length ≤ n ∧ Chain .and (Shows .unary d) us e.conjuncts

/-- An expression without connectives that is written as a unary phrase. -/
theorem Restates.of_shows (us : List Token) (hterms : ∀ k : Connective, k.terms e = [e])
    (hlength : us.length ≤ n) (h : Shows .unary d us e) : Restates .unary d n e := by
  have hconjuncts : Chain .and (Shows .unary d) us e.conjuncts := by
    rw [show e.conjuncts = [e] from hterms .and]
    exact .one h
  refine ⟨⟨us, hlength, h⟩, ⟨us, hlength, ?_⟩, fun _ => ⟨us, hlength, hconjuncts⟩⟩
  rw [show e.disjuncts = [e] from hterms .or]
  exact .one (Connective.and.shows_loose (Connective.isFlat_of_terms (hterms .and)) hconjuncts)

theorem IsAtom.terms_eq (h : IsAtom ts e) (k : Connective) : k.terms e = [e] := by
  cases h <;> cases k <;> rfl

theorem IsAtom.shows (h : IsAtom ts e) (hts : ∀ t ∈ ts, IsPlain t) : Shows .unary d ts e := by
  refine ⟨.atom h, ?_⟩
  have hchars : Phrase.unary.chars e = e.chars := by
    cases h <;> rfl
  rw [hchars]
  exact h.spells hts

theorem Derives.exists_operand {o : Operand} (h : Derives c d ts (.present o)) :
    ∃ t ∈ ts, IsOperand t o ∧ t ≠ .true ∧ t ≠ .false := by
  generalize he : Expr.present o = e at h
  induction h with
  | conjunction _ ih | unary _ ih => exact ih he
  | or | and | not => cases he
  | group _ ih =>
    obtain ⟨t, ht, ho⟩ := ih he
    exact ⟨t, by simp [ht], ho⟩
  | atom hatom =>
    cases hatom with
    | @present t _ ho htrue hfalse =>
      cases he
      exact ⟨t, List.mem_cons_self, ho, htrue, hfalse⟩
    | _ => cases he

theorem expression_chars (e : Expr) : Phrase.expression.chars e = e.chars := by
  cases e <;> rfl

/-- Only a conjunction or a disjunction needs brackets, and has other terms than itself. -/
theorem terms_eq_or_level (e : Expr) : (∀ k : Connective, k.terms e = [e]) ∨ e.precedence ≤ 2 := by
  cases e with
  | and => exact .inr (Nat.le_refl 2)
  | or => exact .inr (Nat.le_succ 1)
  | _ => exact .inl (by rintro (_ | _) <;> rfl)

theorem disjuncts_or_conjuncts (e : Expr) : e.disjuncts = [e] ∨ e.conjuncts = [e] := by
  cases e <;> first | exact .inl rfl | exact .inr rfl

namespace Restates

/-- What is negated binds tightest, and a negated presence is written as missing. -/
theorem not (hderives : Derives .unary d ts e) (hts : ∀ t ∈ ts, IsPlain t)
    (h : Restates .unary d ts.length e) :
    Restates .unary (d + 1) (ts.length + 1) (.not e) := by
  have hterms : ∀ k : Connective, k.terms (.not e) = [.not e] := by
    rintro (_ | _) <;> rfl
  by_cases hpresent : ∃ o, e = .present o
  · obtain ⟨o, rfl⟩ := hpresent
    obtain ⟨t, ht, ho, htrue, hfalse⟩ := hderives.exists_operand
    have hlength := List.length_pos_of_mem ht
    refine of_shows [t, .missing] hterms (by simp only [List.length_cons, List.length_nil]; omega)
      ?_
    exact (IsAtom.missing ho htrue hfalse).shows (by simpa [IsPlain] using hts t ht)
  · obtain ⟨us, hlength, hs⟩ := h.phrase
    refine of_shows (.not :: us) hterms (Nat.succ_le_succ hlength) ⟨.not hs.derives, ?_⟩
    have hnot : Spells "NOT".toList [.not] := spells_keyword (by decide) rfl (by cbv)
    have hchars : Phrase.unary.chars (.not e) = "NOT".toList ++ ' ' :: Phrase.unary.chars e := by
      cases e with
      | present o => exact absurd ⟨o, rfl⟩ hpresent
      | _ => rfl
    rw [hchars]
    exact hnot.append (isBreak_cons _ _ (by simp)) hs.spells.blank

/-- Brackets are written where they are needed. -/
theorem group (h : Restates .expression d n e) : Restates .unary (d + 1) (n + 2) e := by
  have hsucc : ∀ {c k us es}, Chain k (Shows c d) us es → Chain k (Shows c (d + 1)) us es :=
    fun h => h.imp fun _ _ => Shows.succ
  have hphrase : ∃ us, us.length ≤ n + 2 ∧ Shows .unary (d + 1) us e := by
    rcases terms_eq_or_level e with hterms | hlevel
    · obtain ⟨us, hlength, hchain⟩ := h.conjuncts (.inr (hterms .or))
      rw [show e.conjuncts = [e] from hterms .and, Chain.singleton_iff] at hchain
      exact ⟨us, by omega, hchain.succ⟩
    · obtain ⟨us, hlength, hs⟩ := h.phrase
      refine ⟨.openParen :: (us ++ [.closeParen]), by simpa using hlength, .group hs.derives, ?_⟩
      have hchars : Phrase.unary.chars e = '(' :: (Phrase.expression.chars e ++ [')']) := by
        rw [expression_chars]
        simp only [Phrase.chars, Phrase.level, hlevel, decide_true, Expr.bracketed, if_true,
          List.cons_append, List.nil_append]
      rw [hchars]
      exact (hs.spells.append (isBreak_cons _ _ (by simp)) Spells.closeParen).openParen
  refine ⟨hphrase, ?_, fun _ => ?_⟩
  · obtain ⟨us, hlength, hchain⟩ := h.disjuncts
    exact ⟨us, by omega, hsucc hchain⟩
  · rcases disjuncts_or_conjuncts e with hor | hand
    · obtain ⟨us, hlength, hchain⟩ := h.conjuncts (.inr hor)
      exact ⟨us, by omega, hsucc hchain⟩
    · obtain ⟨us, hlength, hs⟩ := hphrase
      exact ⟨us, hlength, hand ▸ .one hs⟩

theorem conjunction_of_unary (hflat : Connective.and.IsFlat e) (h : Restates .unary d n e) :
    Restates .conjunction d n e := by
  obtain ⟨us, hlength, hchain⟩ := h.conjuncts (.inl nofun)
  exact ⟨⟨us, hlength, Connective.and.shows_loose hflat hchain⟩, h.disjuncts,
    fun _ => ⟨us, hlength, hchain⟩⟩

theorem expression_of_conjunction (hflat : Connective.or.IsFlat e)
    (h : Restates .conjunction d n e) :
    Restates .expression d n e := by
  obtain ⟨us, hlength, hchain⟩ := h.disjuncts
  exact ⟨⟨us, hlength, Connective.or.shows_loose hflat hchain⟩, ⟨us, hlength, hchain⟩,
    fun _ => h.conjuncts (.inl nofun)⟩

theorem and (he : Connective.and.IsFlat e) (hf : Connective.and.IsFlat f)
    (h : Restates .unary d n e) (h' : Restates .conjunction d m f) :
    Restates .conjunction d (n + (m + 1)) (.and (e.conjuncts ++ f.conjuncts)) := by
  obtain ⟨us, hlength, hchain⟩ := h.conjuncts (.inl nofun)
  obtain ⟨us', hlength', hchain'⟩ := h'.conjuncts (.inl nofun)
  have hlength : (us ++ .and :: us').length ≤ n + (m + 1) := by
    simp only [List.length_append, List.length_cons]
    omega
  have hconjuncts := hchain.append hchain'
  have hs := Connective.and.shows_loose (he.build hf) hconjuncts
  exact ⟨⟨_, hlength, hs⟩, ⟨_, hlength, .one hs⟩, fun _ => ⟨_, hlength, hconjuncts⟩⟩

theorem or (he : Connective.or.IsFlat e) (hf : Connective.or.IsFlat f)
    (h : Restates .conjunction d n e) (h' : Restates .expression d m f) :
    Restates .expression d (n + (m + 1)) (.or (e.disjuncts ++ f.disjuncts)) := by
  obtain ⟨us, hlength, hchain⟩ := h.disjuncts
  obtain ⟨us', hlength', hchain'⟩ := h'.disjuncts
  have hlength : (us ++ .or :: us').length ≤ n + (m + 1) := by
    simp only [List.length_append, List.length_cons]
    omega
  have hdisjuncts := hchain.append hchain'
  refine ⟨⟨_, hlength, Connective.or.shows_loose (he.build hf) hdisjuncts⟩,
    ⟨_, hlength, hdisjuncts⟩, ?_⟩
  -- there are two terms, so this is no term of a conjunction
  rintro (hne | hone)
  · exact absurd rfl hne
  · have hfirst := List.length_pos_of_ne_nil he.terms_ne_nil
    have hrest := List.length_pos_of_ne_nil hf.terms_ne_nil
    have htwo : (e.disjuncts ++ f.disjuncts).length = 1 := congrArg List.length hone
    rw [List.length_append] at htwo
    simp only [Connective.terms] at hfirst hrest
    omega

end Restates

/-- What was derived can be written with no more tokens, and with no more brackets and negations
open. -/
theorem Derives.restates (h : Derives c d ts e) (hts : ∀ t ∈ ts, IsPlain t) :
    Restates c d ts.length e := by
  induction h with
  | atom hatom => exact .of_shows _ hatom.terms_eq (Nat.le_refl _) (hatom.shows hts)
  | not h ih =>
    have hts' := fun t ht => hts t (List.mem_cons_of_mem _ ht)
    exact (ih hts').not h hts'
  | group h ih =>
    have hgroup := (ih fun t ht => hts t (by simp [ht])).group
    simpa using hgroup
  | unary h ih => exact (ih hts).conjunction_of_unary (h.isFlat .and)
  | conjunction h ih => exact (ih hts).expression_of_conjunction (h.isFlat .or)
  | and h h' ih ih' =>
    have hand := (ih fun t ht => hts t (by simp [ht])).and (h.isFlat .and) (h'.isFlat .and)
      (ih' fun t ht => hts t (by simp [ht]))
    simpa using hand
  | or h h' ih ih' =>
    have hor := (ih fun t ht => hts t (by simp [ht])).or (h.isFlat .or) (h'.isFlat .or)
      (ih' fun t ht => hts t (by simp [ht]))
    simpa using hor

/-! ### Texts -/

/-- The text of an expression that was read, if it has no numbers, has no more tokens than a guard
may have, and they derive it with no more brackets and negations open than there may be; so it reads
as this expression again unless it is too long. -/
theorem parse_shown {text : String} (h : parseExpr text = .ok e)
    (hnumbers : ∀ o ∈ e.operands, ∀ n, o ≠ .value (.number n)) :
    (∃ ts, scan 0 e.shown.toList = .ok ts ∧ ts.length ≤ 1024 ∧
      Derives .expression 64 (kinds ts) e) ∧
      (byteLength e.shown.toList ≤ 4096 → parseExpr e.shown = .ok e) := by
  obtain ⟨-, ts, hscan, hcount, hderives⟩ := parseChars_eq_ok_iff.1 (parseExpr_eq_ok_iff.1 h)
  have hplain : ∀ t ∈ kinds ts, IsPlain t := by
    intro t ht
    cases t with
    | name name => exact isName_of_scan hscan ht
    | number x =>
      obtain ⟨n, hn⟩ := hderives.exists_number ht
      exact hnumbers _ hn n rfl
    | _ => trivial
  obtain ⟨us, hlength, hderives', hspells⟩ := (hderives.restates hplain).phrase
  rw [expression_chars] at hspells
  obtain ⟨vs, hvs, rfl⟩ := hspells.scans 0
  have hfew : vs.length ≤ maxTokens := by
    rw [kinds, kinds, List.length_map, List.length_map] at hlength
    exact hlength.trans hcount
  have hshown : e.shown.toList = e.chars := String.toList_ofList
  rw [hshown]
  refine ⟨⟨vs, hvs, hfew, hderives'⟩, fun hbytes => ?_⟩
  rw [parseExpr_eq_ok_iff, hshown, parseChars_eq_ok_iff]
  exact ⟨hbytes, vs, hvs, hfew, hderives'⟩

theorem parseExpr_of_derives {text : String} (hlength : byteLength text.toList ≤ maxLength)
    (hscan : (scan 0 text.toList).map kinds = .ok us) (hcount : us.length ≤ maxTokens)
    (h : Derives .expression maxDepth us e) : parseExpr text = .ok e := by
  rw [parseExpr_eq_ok_iff, parseChars_eq_ok_iff]
  obtain ⟨ts, hts, rfl⟩ := map_eq_ok.1 hscan
  exact ⟨hlength, ts, hts, by simpa [kinds] using hcount, h⟩

/-- A negated disjunction keeps its brackets, and the other spellings of its words go. -/
theorem parse_shown_mixed :
    let e : Expr := .and [.not (.or [.not (.present (.answer "a")),
      .compare (.context "b") .eq (.value (.string "it's"))]),
        .call "f" [.value .null, .value (.bool true)]]
    parseExpr "!(a Missing || (ctx.b == \"it's\")) and f(null,TRUE)" = .ok e ∧
      (∀ o ∈ e.operands, ∀ n, o ≠ .value (.number n)) ∧
      parseExpr "NOT (a missing OR ctx.b == 'it\\'s') AND f(null, true)" = .ok e := by
  intro e
  have hread : parseExpr "!(a Missing || (ctx.b == \"it's\")) and f(null,TRUE)" = .ok e := by
    have ha : Derives .conjunction 62 [.name "a", .missing] (.not (.present (.answer "a"))) :=
      .unary (.atom (.missing (.answer (by decide)) nofun nofun))
    have hb : Derives .expression 61 [.name ("ctx." ++ "b"), .compare .eq, .text "it's"] _ :=
      .conjunction (.unary (.atom (.compare .eq (.context (by decide)) (.text "it's"))))
    have hnot := (ha.or (.conjunction (.unary hb.group))).group.not
    have hcall : Derives .conjunction 64 [.name "f", .openParen, .null, .comma, .true, .closeParen]
        _ :=
      .unary (.atom (.call "f" (.more .null (.one .truth))))
    exact parseExpr_of_derives (by decide +kernel) (by decide +kernel) (by decide)
      (.conjunction (hnot.and hcall))
  have hnumbers : ∀ o ∈ e.operands, ∀ n, o ≠ .value (.number n) := by
    simp [e, Expr.operands, Expr.operandsOf]
  refine ⟨hread, hnumbers, ?_⟩
  have hshown : e.shown = "NOT (a missing OR ctx.b == 'it\\'s') AND f(null, true)" := by
    decide +kernel
  rw [← hshown]
  exact (parse_shown hread hnumbers).2 (by decide +kernel)

end Parley.Guard

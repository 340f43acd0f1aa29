import Parley.Guard.Parser
import Parley.Proofs.Checked
import Parley.Proofs.Guard.Grammar

/-!
# What is read as a guard

The reader takes exactly the phrases of the grammar and gives the expressions that they stand for.

* `Reads`: a parser takes the phrases of a kind, as long as no token comes next that would continue
  them;
* `operand_reads` to `disjunction_reads`: one such statement for each parser;
* `expression_eq_ok_iff`: a whole list of tokens;
* `parse_exact`: texts.
-/

namespace Parley.Guard

variable {α : Type} {stop : ℕ}

/-- Tokens without their offsets. -/
def kinds (ts : Tokens) : List Token := ts.map Prod.snd

@[simp] theorem kinds_nil : kinds [] = [] := rfl

@[simp] theorem kinds_cons (q : ℕ × Token) (ts : Tokens) : kinds (q :: ts) = q.2 :: kinds ts := rfl

@[simp] theorem kinds_append (ts us : Tokens) : kinds (ts ++ us) = kinds ts ++ kinds us :=
  List.map_append

theorem kinds_eq_cons {ts : Tokens} {t : Token} {us : List Token} (h : kinds ts = t :: us) :
    ∃ pos r, ts = (pos, t) :: r ∧ kinds r = us := by
  obtain ⟨⟨pos, t'⟩, r, rfl, rfl, rfl⟩ := List.map_eq_cons_iff.1 h
  exact ⟨pos, r, rfl, rfl⟩

theorem kinds_eq_append {ts : Tokens} {us vs : List Token} (h : kinds ts = us ++ vs) :
    ∃ front rest, ts = front ++ rest ∧ kinds front = us ∧ kinds rest = vs :=
  List.map_eq_append_iff.1 h

/-- A parser takes a phrase of a kind from the front of tokens.  It takes each such phrase when no
token comes next that would continue it. -/
structure Reads (p : Parser α) (P : List Token → α → Prop) (continues : Token → Prop) : Prop where
  sound : ∀ {ts a rest h}, p ts = .ok ⟨a, rest, h⟩ → ∃ front, ts = front ++ rest ∧ P (kinds front) a
  complete : ∀ {a} front rest, P (kinds front) a → (∀ t ∈ (kinds rest).head?, ¬ continues t) →
    ∃ h, p (front ++ rest) = .ok ⟨a, rest, h⟩

/-! ### Operands -/

theorem nameOperand?_eq_some {name : String} {o : Operand} :
    nameOperand? name = some o ↔ IsOperand (.name name) o := by
  constructor
  · intro h
    unfold nameOperand? at h
    split at h
    · rename_i r hname
      split_ifs at h with hr
      cases h
      have hsplit : name = "ctx." ++ String.ofList r := by
        rw [← String.toList_inj, String.toList_append, hname, String.toList_ofList,
          String.toList_ofList]
        rfl
      rw [hsplit]
      exact .context (by simpa [← String.toList_inj] using hr)
    · rename_i hname
      cases h
      refine .answer ?_
      rintro ⟨r, hr⟩
      exact hname r hr.symm
  · intro h
    generalize ht : Token.name name = t at h
    cases h with
    | answer hname =>
      cases ht
      unfold nameOperand?
      split
      · rename_i r hr
        exact absurd ⟨r, hr.symm⟩ hname
      · rfl
    | @context rest hrest =>
      cases ht
      have hne : rest.toList ≠ [] := mt String.toList_eq_nil_iff.1 hrest
      have hname : ("ctx." ++ rest).toList = 'c' :: 't' :: 'x' :: '.' :: rest.toList :=
        String.toList_append
      unfold nameOperand?
      rw [hname]
      simp only [hne, if_false, String.ofList_toList]
    | _ => cases ht

/-- The finite numbers are those that can be operands. -/
theorem exists_ofBinary64?_iff {x : Binary64} :
    (∃ n, Number.ofBinary64? x = some n) ↔ x.isFinite = true := by
  unfold Number.ofBinary64?
  cases hvalue : x.value with
  | nan | infinite neg =>
    have htoInt : x.toInt? = none := by simp only [Binary64.toInt?, hvalue]
    simp only [htoInt, Binary64.isFinite, hvalue]
    simp
  | finite neg u =>
    have hfinite : x.isFinite = true := by simp only [Binary64.isFinite, hvalue]
    cases x.toInt? <;> simp [hfinite]

theorem operandOf?_eq_ok {t : Token} {o : Operand} : operandOf? t = .ok o ↔ IsOperand t o := by
  cases t with
  | name name =>
    rw [← nameOperand?_eq_some]
    simp only [operandOf?]
    cases nameOperand? name <;> simp
  | number x =>
    simp only [operandOf?]
    constructor
    · intro h
      cases hn : Number.ofBinary64? x with
      | none => simp [hn] at h
      | some n =>
        simp only [hn, Option.map_some, Option.elim_some, Except.ok.injEq] at h
        rw [← h]
        exact .number (exists_ofBinary64?_iff.1 ⟨n, hn⟩) hn
    · rintro (_ | _ | _ | ⟨-, hn⟩)
      simp [hn]
  | _ =>
    constructor
    · intro h
      cases h <;> constructor
    · intro h
      cases h <;> rfl

theorem operand_cons {pos : ℕ} {t : Token} {o : Operand} (h : IsOperand t o) (r : Tokens) :
    operand stop ((pos, t) :: r) = .ok ⟨o, r, Nat.lt_succ_self _⟩ := by
  simp only [operand, operandOf?_eq_ok.2 h]

/-- One token is taken, whatever comes next. -/
theorem operand_eq_ok {ts r : Tokens} {o : Operand} {hlt : r.length < ts.length}
    (h : operand stop ts = .ok ⟨o, r, hlt⟩) : ∃ pos t, ts = (pos, t) :: r ∧ IsOperand t o := by
  cases ts with
  | nil => cases h
  | cons q r =>
    obtain ⟨pos, t⟩ := q
    simp only [operand] at h
    split at h
    · rename_i ho
      cases h
      exact ⟨pos, t, rfl, operandOf?_eq_ok.1 ho⟩
    · cases h

theorem IsOperands.exists_cons {ts : List Token} {os : List Operand} (h : IsOperands ts os) :
    ∃ t o us, ts = t :: us ∧ IsOperand t o := by
  cases h with
  | one ho => exact ⟨_, _, _, rfl, ho⟩
  | more ho => exact ⟨_, _, _, rfl, ho⟩

/-- Operands with commas between them, and the bracket that closes them. -/
def IsClosedOperands (ts : List Token) (os : List Operand) : Prop :=
  ∃ us, IsOperands us os ∧ ts = us ++ [.closeParen]

theorem operandsToClose_reads (stop : ℕ) :
    Reads (operandsToClose stop) IsClosedOperands fun _ => False where
  sound := by
    intro ts os rest hlt h
    induction hn : ts.length using Nat.strong_induction_on generalizing ts os with
    | _ n ih =>
      rw [operandsToClose] at h
      split at h
      · cases h
      · cases h
      · rename_i o pos t r hlt ho
        obtain ⟨pos', t', rfl, hoperand⟩ := operand_eq_ok ho
        split at h
        · cases h
          exact ⟨[(pos', t'), (pos, .closeParen)], rfl, [t'], .one hoperand, rfl⟩
        · split at h
          · cases h
          · rename_i os s hlt' hos
            cases h
            obtain ⟨front, rfl, us, hus, hkinds⟩ := ih _ (by simp at hn; omega) hos rfl
            refine ⟨(pos', t') :: (pos, .comma) :: front, rfl, t' :: .comma :: us,
              .more hoperand hus, ?_⟩
            simp [hkinds]
        · cases h
  complete := by
    rintro os front rest ⟨us, hus, hkinds⟩ -
    induction hus generalizing front with
    | one ho =>
      obtain ⟨pos, r, rfl, hr⟩ := kinds_eq_cons hkinds
      obtain ⟨pos', r', rfl, hr'⟩ := kinds_eq_cons hr
      obtain rfl := List.map_eq_nil_iff.1 hr'
      rw [List.cons_append, operandsToClose, operand_cons ho]
      exact ⟨_, rfl⟩
    | more ho _ ih =>
      obtain ⟨pos, r, rfl, hr⟩ := kinds_eq_cons hkinds
      obtain ⟨pos', r', rfl, hr'⟩ := kinds_eq_cons hr
      obtain ⟨hlt, hos⟩ := ih r' hr'
      rw [List.cons_append, operandsToClose, operand_cons ho]
      dsimp only [List.cons_append]
      rw [hos]
      exact ⟨_, rfl⟩

/-- Arguments in brackets, if there are any. -/
inductive IsArguments : List Token → List Operand → Prop
  | none : IsArguments [.openParen, .closeParen] []
  | some {ts : List Token} {os : List Operand} : IsOperands ts os →
      IsArguments (.openParen :: (ts ++ [.closeParen])) os

theorem arguments_reads (stop : ℕ) : Reads (arguments stop) IsArguments fun _ => False where
  sound := by
    intro ts os rest hlt h
    unfold arguments at h
    split at h
    · cases h
      exact ⟨[_, _], rfl, .none⟩
    · split at h
      · cases h
      · rename_i hos
        cases h
        obtain ⟨front, rfl, us, hus, hkinds⟩ := (operandsToClose_reads _).sound hos
        exact ⟨_ :: front, rfl, by simpa [hkinds] using IsArguments.some hus⟩
    · cases h
  complete := by
    intro os front rest h _
    generalize hkinds : kinds front = ts at h
    cases h with
    | none =>
      obtain ⟨pos, r, rfl, hr⟩ := kinds_eq_cons hkinds
      obtain ⟨pos', r', rfl, hr'⟩ := kinds_eq_cons hr
      obtain rfl := List.map_eq_nil_iff.1 hr'
      exact ⟨_, rfl⟩
    | some hus =>
      obtain ⟨pos, r, rfl, hr⟩ := kinds_eq_cons hkinds
      obtain ⟨hlt, hos⟩ := (operandsToClose_reads stop).complete r rest ⟨_, hus, hr⟩ fun _ _ => id
      -- the first operand is no closing bracket
      obtain ⟨t, o, us, rfl, ho⟩ := hus.exists_cons
      obtain ⟨pos', r', rfl, -⟩ := kinds_eq_cons hr
      cases ho <;>
      · simp only [List.cons_append, arguments] at hos ⊢
        rw [hos]
        exact ⟨_, rfl⟩

/-- An operand and what is said of it. -/
inductive IsRelation : List Token → Expr → Prop
  | present {t : Token} {o : Operand} : IsOperand t o → IsRelation [t, .present] (.present o)
  | missing {t : Token} {o : Operand} : IsOperand t o → IsRelation [t, .missing] (.not (.present o))
  | compare {t u : Token} {l r : Operand} (op : Comparison) : IsOperand t l → IsOperand u r →
      IsRelation [t, .compare op, u] (.compare l op r)

theorem relation_reads (stop : ℕ) : Reads (relation stop) IsRelation fun _ => False where
  sound := by
    intro ts e rest hlt h
    unfold relation at h
    cases ho : operand stop ts with
    | error e =>
      rw [ho] at h
      cases h
    | ok y =>
      obtain ⟨o, r, hlt⟩ := y
      obtain ⟨pos, t, rfl, hoperand⟩ := operand_eq_ok ho
      rw [ho] at h
      rcases r with _ | ⟨⟨pos', u⟩, r⟩
      · cases h
      · cases u with
        | present =>
          cases h
          exact ⟨[_, _], rfl, .present hoperand⟩
        | missing =>
          cases h
          exact ⟨[_, _], rfl, .missing hoperand⟩
        | compare op =>
          simp only at h
          split at h
          · cases h
          · rename_i hright
            obtain ⟨pos'', u, rfl, hoperand'⟩ := operand_eq_ok hright
            cases h
            exact ⟨[_, _, _], rfl, .compare op hoperand hoperand'⟩
        | _ => cases h
  complete := by
    intro e front rest h _
    generalize hkinds : kinds front = ts at h
    cases h with
    | present ho | missing ho =>
      obtain ⟨pos, r, rfl, hr⟩ := kinds_eq_cons hkinds
      obtain ⟨pos', r', rfl, hr'⟩ := kinds_eq_cons hr
      obtain rfl := List.map_eq_nil_iff.1 hr'
      rw [List.cons_append, relation, operand_cons ho]
      exact ⟨_, rfl⟩
    | compare op ho hright =>
      obtain ⟨pos, r, rfl, hr⟩ := kinds_eq_cons hkinds
      obtain ⟨pos', r', rfl, hr'⟩ := kinds_eq_cons hr
      obtain ⟨pos'', r'', rfl, hr''⟩ := kinds_eq_cons hr'
      obtain rfl := List.map_eq_nil_iff.1 hr''
      rw [List.cons_append, relation, operand_cons ho]
      dsimp only [List.cons_append]
      rw [operand_cons hright]
      exact ⟨_, rfl⟩

/-! ### Leaves -/

/-- A comparison sign. -/
def IsComparison (t : Token) : Prop := ∃ op, t = .compare op

theorem startsWithComparison_iff {ts : Tokens} :
    startsWithComparison ts = true ↔ ∃ t ∈ (kinds ts).head?, IsComparison t := by
  rcases ts with _ | ⟨⟨pos, t⟩, r⟩
  · simp [startsWithComparison]
  · cases t <;> simp [startsWithComparison, IsComparison]

/-- A relation whose first operand is no bare truth value, or which is a comparison, is an atom. -/
theorem IsRelation.isAtom {t : Token} {ts : List Token} {e : Expr} (h : IsRelation (t :: ts) e)
    (ht : t = .true ∨ t = .false → ∃ u ∈ ts.head?, IsComparison u) : IsAtom (t :: ts) e := by
  have hne : (¬ ∃ u ∈ ts.head?, IsComparison u) → t ≠ .true ∧ t ≠ .false := fun h =>
    ⟨fun htrue => h (ht (.inl htrue)), fun hfalse => h (ht (.inr hfalse))⟩
  cases h with
  | present ho =>
    obtain ⟨htrue, hfalse⟩ := hne (by simp [IsComparison])
    exact .present ho htrue hfalse
  | missing ho =>
    obtain ⟨htrue, hfalse⟩ := hne (by simp [IsComparison])
    exact .missing ho htrue hfalse
  | compare op ho ho' => exact .compare op ho ho'

theorem relation_isAtom {pos : ℕ} {t : Token} {r rest : Tokens} {e : Expr}
    {hlt : rest.length < ((pos, t) :: r).length}
    (h : relation stop ((pos, t) :: r) = .ok ⟨e, rest, hlt⟩)
    (ht : t = .true ∨ t = .false → ∃ u ∈ (kinds r).head?, IsComparison u) :
    ∃ front, (pos, t) :: r = front ++ rest ∧ IsAtom (kinds front) e := by
  obtain ⟨front, hfront, hrelation⟩ := (relation_reads _).sound h
  rcases front with _ | ⟨⟨pos', t'⟩, front⟩
  · cases hrelation
  · obtain ⟨⟨-, rfl⟩, hr⟩ : (pos = pos' ∧ t = t') ∧ r = front ++ rest := by simpa using hfront
    refine ⟨_, hfront, hrelation.isAtom fun htruth => ?_⟩
    have hhead := ht htruth
    rw [hr] at hhead
    -- a relation has a second token
    rcases front with _ | ⟨q, front⟩
    · cases hrelation
    · simpa using hhead

theorem leaf_eq_relation {pos : ℕ} {t : Token} {o : Operand} {r : Tokens} (ho : IsOperand t o)
    (ht : t = .true ∨ t = .false → startsWithComparison r = true)
    (hr : startsWithBracket r = false) :
    leaf stop ((pos, t) :: r) = relation stop ((pos, t) :: r) := by
  cases ho <;> simp_all [leaf]

theorem leaf_reads (stop : ℕ) : Reads (leaf stop) IsAtom IsComparison where
  sound := by
    intro ts e rest hlt h
    rcases ts with _ | ⟨⟨pos, t⟩, r⟩
    · cases h
    · cases t with
      | otherwise => cases h
      | true | false =>
        simp only [leaf] at h
        split_ifs at h with hcomparison
        · exact relation_isAtom h fun _ => startsWithComparison_iff.1 hcomparison
        · cases h
          exact ⟨[_], rfl, by constructor⟩
      | name name =>
        simp only [leaf] at h
        split_ifs at h with hbracket
        · split at h
          · cases h
          · rename_i hos
            cases h
            obtain ⟨front, hr, hargs⟩ := (arguments_reads _).sound hos
            refine ⟨(pos, .name name) :: front, by rw [hr]; rfl, ?_⟩
            rw [kinds_cons]
            generalize kinds front = us at hargs
            cases hargs with
            | none => exact .callOfNone name
            | some hos => exact .call name hos
        · exact relation_isAtom h (by simp)
      | _ =>
        simp only [leaf] at h
        exact relation_isAtom h (by simp)
  complete := by
    intro e front rest h hrest
    generalize hkinds : kinds front = ts at h
    cases h with
    | truth | untruth =>
      obtain ⟨pos, r, rfl, hr⟩ := kinds_eq_cons hkinds
      obtain rfl := List.map_eq_nil_iff.1 hr
      have hcomparison : startsWithComparison rest = false := by
        rw [← Bool.not_eq_true, startsWithComparison_iff]
        rintro ⟨t, ht, hop⟩
        exact hrest t ht hop
      dsimp only [List.cons_append, List.nil_append, leaf]
      rw [hcomparison]
      exact ⟨_, rfl⟩
    | present ho htrue hfalse | missing ho htrue hfalse =>
      obtain ⟨hlt, he⟩ :=
        (relation_reads stop).complete front rest (by rw [hkinds]; constructor; exact ho)
        fun _ _ => id
      obtain ⟨pos, r, rfl, hr⟩ := kinds_eq_cons hkinds
      obtain ⟨pos', r', rfl, -⟩ := kinds_eq_cons hr
      refine ⟨hlt, ?_⟩
      rw [← he]
      exact leaf_eq_relation ho (by simp [htrue, hfalse]) rfl
    | compare op ho ho' =>
      obtain ⟨hlt, he⟩ :=
        (relation_reads stop).complete front rest (by rw [hkinds]; exact .compare op ho ho')
        fun _ _ => id
      obtain ⟨pos, r, rfl, hr⟩ := kinds_eq_cons hkinds
      obtain ⟨pos', r', rfl, -⟩ := kinds_eq_cons hr
      refine ⟨hlt, ?_⟩
      rw [← he]
      exact leaf_eq_relation ho (fun _ => rfl) rfl
    | callOfNone name | call name hos =>
      obtain ⟨pos, r, rfl, hr⟩ := kinds_eq_cons hkinds
      obtain ⟨hlt, hargs⟩ := (arguments_reads stop).complete r rest
        (by rw [hr]; first | exact .none | exact .some hos) fun _ _ => id
      obtain ⟨pos', r', rfl, -⟩ := kinds_eq_cons hr
      dsimp only [List.cons_append, leaf] at hargs ⊢
      rw [if_pos (by rfl), hargs]
      exact ⟨_, rfl⟩

/-! ### Chains -/

theorem separated_reads {p : Parser Expr} {P : List Token → Expr → Prop} {continues : Token → Prop}
    {sep : Token} (hp : Reads p P continues) (hsep : ¬ continues sep) :
    Reads (separated sep p) (Chain sep P) fun t => continues t ∨ t = sep where
  sound := by
    intro ts es rest hlt h
    induction hn : ts.length using Nat.strong_induction_on generalizing ts es with
    | _ n ih =>
      rw [separated] at h
      split at h
      · cases h
      · rename_i he
        cases h
        obtain ⟨front, hfront, hphrase⟩ := hp.sound he
        exact ⟨front, hfront, .one hphrase⟩
      · rename_i pos t r hlt he
        obtain ⟨front, hfront, hphrase⟩ := hp.sound he
        split_ifs at h with ht
        · subst ht
          split at h
          · cases h
          · rename_i hes
            cases h
            obtain ⟨back, rfl, hchain⟩ := ih _ (by simp at hlt; omega) hes rfl
            refine ⟨front ++ (pos, t) :: back, by simp [hfront], ?_⟩
            rw [kinds_append, kinds_cons]
            exact .more hphrase hchain
        · cases h
          exact ⟨front, hfront, .one hphrase⟩
  complete := by
    intro es front rest h hrest
    generalize hkinds : kinds front = ts at h
    induction h generalizing front with
    | one hphrase =>
      subst hkinds
      obtain ⟨hlt, he⟩ := hp.complete front rest hphrase fun t ht h => hrest t ht (.inl h)
      rw [separated, he]
      rcases rest with _ | ⟨⟨pos, t⟩, rest⟩
      · exact ⟨_, rfl⟩
      · have ht : t ≠ sep := fun h => hrest t rfl (.inr h)
        dsimp only
        rw [if_neg ht]
        exact ⟨_, rfl⟩
    | more hphrase hchain ih =>
      obtain ⟨first, back, rfl, rfl, hback⟩ := kinds_eq_append hkinds
      obtain ⟨pos, back, rfl, rfl⟩ := kinds_eq_cons hback
      obtain ⟨hlt, hes⟩ := ih back rfl
      obtain ⟨hlt', he⟩ :=
        hp.complete first ((pos, sep) :: (back ++ rest)) hphrase (by simpa using hsep)
      rw [List.append_assoc, List.cons_append, separated, he]
      dsimp only
      rw [if_pos rfl, hes]
      exact ⟨_, rfl⟩

/-- A parser that joins what stands between the tokens of a connective. -/
theorem Reads.joined {k : Connective} {p q : Parser Expr} {P Q : List Token → Expr → Prop}
    {continues : Token → Prop} (hp : Reads p P continues) (htoken : ¬ continues k.token)
    (hq : ∀ ts, q ts = match separated k.token p ts with
      | .error e => .error e
      | .ok ⟨es, r, h⟩ =>
          match k.join es with
          | none => .error ⟨offset stop ts, .noExpression⟩
          | some e => .ok ⟨e, r, h⟩)
    (hQ : ∀ ts e, Q ts e ↔ ∃ es, Chain k.token P ts es ∧ k.join es = some e) :
    Reads q Q fun t => continues t ∨ t = k.token where
  sound := by
    intro ts e rest hlt h
    rw [hq] at h
    split at h
    · cases h
    · rename_i hes
      split at h
      · cases h
      · rename_i hjoin
        cases h
        obtain ⟨front, hfront, hchain⟩ := (separated_reads hp htoken).sound hes
        exact ⟨front, hfront, (hQ _ _).2 ⟨_, hchain, hjoin⟩⟩
  complete := by
    intro e front rest h hrest
    obtain ⟨es, hchain, hjoin⟩ := (hQ _ _).1 h
    obtain ⟨hlt, hes⟩ := (separated_reads hp htoken).complete front rest hchain hrest
    rw [hq, hes]
    dsimp only
    rw [hjoin]
    exact ⟨_, rfl⟩

section Levels

variable {p : Parser Expr} {d : ℕ} (hp : Reads p (Derives .unary d) IsComparison)

include hp

theorem conjunction_reads (stop : ℕ) :
    Reads (conjunction stop p) (Derives .conjunction d) fun t => IsComparison t ∨ t = .and :=
  hp.joined (k := .and) (by simp [IsComparison, Connective.token]) (fun _ => rfl) fun _ _ =>
    derives_conjunction_iff

theorem disjunction_reads (stop : ℕ) :
    Reads (disjunction stop p) (Derives .expression d) fun t =>
      (IsComparison t ∨ t = .and) ∨ t = .or :=
  (conjunction_reads hp stop).joined (k := .or) (by simp [IsComparison, Connective.token])
    (fun _ => rfl)
    fun _ _ => derives_expression_iff

end Levels

/-! ### Negations and brackets -/

theorem unary_not (stop d pos : ℕ) (r : Tokens) :
    unary stop (d + 1) ((pos, .not) :: r) = match unary stop d r with
      | .error f => .error f
      | .ok ⟨e, s, h⟩ => .ok ⟨.not e, s, Nat.lt_succ_of_lt h⟩ := rfl

theorem unary_openParen (stop d pos : ℕ) (r : Tokens) :
    unary stop (d + 1) ((pos, .openParen) :: r) = match disjunction stop (unary stop d) r with
      | .error f => .error f
      | .ok ⟨e, (_, .closeParen) :: s, h⟩ => .ok ⟨e, s, Nat.lt_succ_of_lt (Nat.lt_of_succ_lt h)⟩
      | .ok ⟨_, s, _⟩ => .error (expected .closeParen stop s) := rfl

/-- What starts with no negation and no bracket is read as a leaf. -/
theorem unary_eq_leaf (d : ℕ) {t : Token} (hnot : t ≠ .not) (hopen : t ≠ .openParen) (pos : ℕ)
    (r : Tokens) :
    unary stop d ((pos, t) :: r) = leaf stop ((pos, t) :: r) := by
  cases d <;> cases t <;> first | rfl | contradiction

theorem IsAtom.exists_cons {ts : List Token} {e : Expr} (h : IsAtom ts e) :
    ∃ t us, ts = t :: us ∧ t ≠ .not ∧ t ≠ .openParen := by
  have hoperand : ∀ {t o}, IsOperand t o → t ≠ .not ∧ t ≠ .openParen := by
    rintro t o (_ | _) <;> simp
  cases h with
  | truth | untruth | callOfNone | call => exact ⟨_, _, rfl, by simp, by simp⟩
  | present ho | missing ho | compare _ ho => exact ⟨_, _, rfl, hoperand ho⟩

theorem unary_sound {d : ℕ} {ts rest : Tokens} {e : Expr} {hlt : rest.length < ts.length}
    (h : unary stop d ts = .ok ⟨e, rest, hlt⟩)
    (ih : ∀ d', d = d' + 1 → Reads (unary stop d') (Derives .unary d') IsComparison) :
    ∃ front, ts = front ++ rest ∧ Derives .unary d (kinds front) e := by
  rcases ts with _ | ⟨⟨pos, t⟩, r⟩
  · cases d <;> cases h
  by_cases hatom : t ≠ .not ∧ t ≠ .openParen
  · rw [unary_eq_leaf d hatom.1 hatom.2] at h
    obtain ⟨front, hfront, hatom⟩ := (leaf_reads stop).sound h
    exact ⟨front, hfront, .atom hatom⟩
  cases d with
  | zero => cases t <;> first | cases h | exact absurd ⟨by simp, by simp⟩ hatom
  | succ d =>
    cases t with
    | not =>
      rw [unary_not] at h
      split at h
      · cases h
      · rename_i he
        cases h
        obtain ⟨front, rfl, hphrase⟩ := (ih d rfl).sound he
        exact ⟨(pos, .not) :: front, rfl, .not hphrase⟩
    | openParen =>
      rw [unary_openParen] at h
      cases he : disjunction stop (unary stop d) r with
      | error f =>
        rw [he] at h
        cases h
      | ok x =>
        obtain ⟨f, s, hs⟩ := x
        rw [he] at h
        obtain ⟨front, hfront, hphrase⟩ := (disjunction_reads (ih d rfl) stop).sound he
        rcases s with _ | ⟨⟨pos', u⟩, s⟩
        · cases h
        · cases u with
          | closeParen =>
            cases h
            refine ⟨(pos, .openParen) :: (front ++ [(pos', .closeParen)]), by simp [hfront], ?_⟩
            simpa using Derives.group hphrase
          | _ => cases h
    | _ => exact absurd ⟨by simp, by simp⟩ hatom

theorem unary_complete {d : ℕ} {front rest : Tokens} {e : Expr}
    (h : Derives .unary d (kinds front) e) (hrest : ∀ t ∈ (kinds rest).head?, ¬ IsComparison t)
    (ih : ∀ d', d = d' + 1 → Reads (unary stop d') (Derives .unary d') IsComparison) :
    ∃ hlt, unary stop d (front ++ rest) = .ok ⟨e, rest, hlt⟩ := by
  generalize hkinds : kinds front = ts at h
  cases h with
  | @not d _ e hphrase =>
    obtain ⟨pos, r, rfl, rfl⟩ := kinds_eq_cons hkinds
    obtain ⟨hlt, he⟩ := (ih d rfl).complete r rest hphrase hrest
    rw [List.cons_append, unary_not, he]
    exact ⟨_, rfl⟩
  | @group d _ e hphrase =>
    obtain ⟨pos, r, rfl, hr⟩ := kinds_eq_cons hkinds
    obtain ⟨inner, close, rfl, rfl, hclose⟩ := kinds_eq_append hr
    obtain ⟨pos', r, rfl, hnil⟩ := kinds_eq_cons hclose
    obtain rfl := List.map_eq_nil_iff.1 hnil
    obtain ⟨hlt, he⟩ :=
      (disjunction_reads (ih d rfl) stop).complete inner ((pos', .closeParen) :: rest) hphrase
      (by simp [IsComparison])
    rw [List.cons_append, List.append_assoc, List.singleton_append, unary_openParen, he]
    exact ⟨_, rfl⟩
  | atom hatom =>
    obtain ⟨t, us, rfl, hnot, hopen⟩ := hatom.exists_cons
    obtain ⟨hlt, he⟩ := (leaf_reads stop).complete front rest (hkinds ▸ hatom) hrest
    obtain ⟨pos, r, rfl, rfl⟩ := kinds_eq_cons hkinds
    rw [List.cons_append, unary_eq_leaf d hnot hopen]
    exact ⟨hlt, he⟩

/-- By induction on the number of brackets and negations that may still be opened. -/
theorem unary_reads (stop d : ℕ) : Reads (unary stop d) (Derives .unary d) IsComparison := by
  induction d with
  | zero => exact ⟨fun h => unary_sound h nofun, fun _ _ h hrest => unary_complete h hrest nofun⟩
  | succ d ih =>
    have ih' : ∀ d', d + 1 = d' + 1 → Reads (unary stop d') (Derives .unary d') IsComparison := by
      rintro d' ⟨⟩
      exact ih
    exact ⟨fun h => unary_sound h ih', fun _ _ h hrest => unary_complete h hrest ih'⟩

/-! ### Texts -/

/-- A list of tokens is read as an expression exactly when it is a phrase of the grammar that stands
for it. -/
theorem expression_eq_ok_iff {ts : Tokens} {e : Expr} :
    expression stop ts = .ok e ↔ Derives .expression maxDepth (kinds ts) e := by
  have hreads := disjunction_reads (unary_reads stop maxDepth) stop
  unfold expression
  constructor
  · intro h
    split_ifs at h
    split at h
    · cases h
    · rename_i he
      cases h
      obtain ⟨front, hfront, hphrase⟩ := hreads.sound he
      rw [List.append_nil] at hfront
      rwa [hfront]
    · cases h
  · intro h
    have hcomplete := hreads.complete ts [] h (by simp)
    rw [List.append_nil] at hcomplete
    obtain ⟨hlt, he⟩ := hcomplete
    -- nothing is left and that is shorter, so there are tokens
    rw [if_neg (List.ne_nil_of_length_pos hlt), he]

theorem tokens_eq_ok_iff {cs : List Char} {ts : Tokens} :
    tokens cs = .ok ts ↔ byteLength cs ≤ maxLength ∧ scan 0 cs = .ok ts ∧
      ts.length ≤ maxTokens := by
  unfold tokens
  split_ifs with hlength
  · simp [hlength]
  · have hle := Nat.le_of_not_lt hlength
    cases hscan : scan 0 cs with
    | error f => simp
    | ok us =>
      cases hlast : us[maxTokens]? with
      | some q =>
        have hmany := (List.getElem?_eq_some_iff.1 hlast).1
        simp only [hlast, Except.ok.injEq, reduceCtorEq, false_iff]
        rintro ⟨-, rfl, hcount⟩
        omega
      | none =>
        have hfew := List.getElem?_eq_none_iff.1 hlast
        simp only [hlast, Except.ok.injEq, hle, true_and]
        constructor
        · rintro rfl
          exact ⟨rfl, hfew⟩
        · exact And.left

theorem parseChars_eq_ok_iff {cs : List Char} {e : Expr} :
    parseChars cs = .ok e ↔ byteLength cs ≤ maxLength ∧
      ∃ ts, scan 0 cs = .ok ts ∧ ts.length ≤ maxTokens ∧
        Derives .expression maxDepth (kinds ts) e := by
  simp only [parseChars, bind_eq_ok, tokens_eq_ok_iff, expression_eq_ok_iff, and_assoc,
    exists_and_left]

theorem parseExpr_eq_ok_iff {text : String} {e : Expr} :
    parseExpr text = .ok e ↔ parseChars text.toList = .ok e :=
  mapError_eq_ok

/-- The texts of at most 4096 bytes and 1024 tokens that are phrases of the grammar, with at most 64
brackets and negations open at a time, are read as what they stand for, and every other text is a
fault. -/
theorem parse_exact (text : String) :
    (∀ e, parseExpr text = .ok e ↔ byteLength text.toList ≤ 4096 ∧
      ∃ ts, scan 0 text.toList = .ok ts ∧ ts.length ≤ 1024 ∧ Derives .expression 64 (kinds ts) e) ∧
    ((∃ e, parseExpr text = .ok e) ∨ ∃ fault, parseExpr text = .error (.parse fault)) := by
  refine ⟨fun e => parseExpr_eq_ok_iff.trans parseChars_eq_ok_iff, ?_⟩
  unfold parseExpr
  cases parseChars text.toList with
  | ok e => exact .inl ⟨e, rfl⟩
  | error fault => exact .inr ⟨fault, rfl⟩

end Parley.Guard

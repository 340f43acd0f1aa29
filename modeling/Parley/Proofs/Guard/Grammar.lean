import Mathlib
import Parley.Guard.Expr

/-!
# The grammar of guards

The lists of tokens that are guards, one constructor for each production, and the expression that
each of them stands for.

* `IsOperand`, `IsOperands`, `IsAtom`: phrases without connectives;
* `Derives`: expressions, conjunctions and unary phrases, with a bound on the brackets and negations
  that are open;
* `Connective`, `Connective.IsFlat`: what the two connectives have in common;
* `Chain`, `derives_conjunction_iff`, `derives_expression_iff`: conjunctions and expressions are
  chains of tighter phrases, joined flat.
-/

namespace Parley.Guard

/-! ### Productions -/

/-- A token is an operand: a name for an answer, a name after `ctx.` for a context value, or a
literal.  The name of a context value is not empty, and numbers are finite. -/
inductive IsOperand : Token → Operand → Prop
  | answer {name : String} : ¬ "ctx.".toList <+: name.toList → IsOperand (.name name) (.answer name)
  | context {name : String} : name ≠ "" → IsOperand (.name ("ctx." ++ name)) (.context name)
  | text (s : String) : IsOperand (.text s) (.value (.string s))
  | number {x : Binary64} {n : Number} : x.isFinite = true → Number.ofBinary64? x = some n →
      IsOperand (.number x) (.value (.number n))
  | truth : IsOperand .true (.value (.bool true))
  | untruth : IsOperand .false (.value (.bool false))
  | null : IsOperand .null (.value .null)

/-- One or more operands with commas between them. -/
inductive IsOperands : List Token → List Operand → Prop
  | one {t : Token} {o : Operand} : IsOperand t o → IsOperands [t] [o]
  | more {t : Token} {o : Operand} {ts : List Token} {os : List Operand} :
      IsOperand t o → IsOperands ts os →
      IsOperands (t :: .comma :: ts) (o :: os)

/-- An expression without brackets, negation and connectives.  What is missing is what is not
present, and a bare `true` or `false` is neither. -/
inductive IsAtom : List Token → Expr → Prop
  | truth : IsAtom [.true] (.literal true)
  | untruth : IsAtom [.false] (.literal false)
  | present {t : Token} {o : Operand} : IsOperand t o → t ≠ .true → t ≠ .false →
      IsAtom [t, .present] (.present o)
  | missing {t : Token} {o : Operand} : IsOperand t o → t ≠ .true → t ≠ .false →
      IsAtom [t, .missing] (.not (.present o))
  | compare {t u : Token} {l r : Operand} (op : Comparison) : IsOperand t l → IsOperand u r →
      IsAtom [t, .compare op, u] (.compare l op r)
  | callOfNone (name : String) : IsAtom [.name name, .openParen, .closeParen] (.call name [])
  | call (name : String) {ts : List Token} {os : List Operand} : IsOperands ts os →
      IsAtom (.name name :: .openParen :: (ts ++ [.closeParen])) (.call name os)

/-- The kinds of phrases, from the loosest to the tightest. -/
inductive Phrase
  | expression
  | conjunction
  | unary

/-- A list of tokens is a phrase that stands for an expression, and at each of its tokens at most so
many brackets and negations are open.  Negation binds tightest, then conjunction, then disjunction;
chains of one connective are flat. -/
inductive Derives : Phrase → ℕ → List Token → Expr → Prop
  | conjunction {d : ℕ} {ts : List Token} {e : Expr} : Derives .conjunction d ts e →
      Derives .expression d ts e
  | or {d : ℕ} {ts us : List Token} {e f : Expr} : Derives .conjunction d ts e →
      Derives .expression d us f →
      Derives .expression d (ts ++ .or :: us) (.or (e.disjuncts ++ f.disjuncts))
  | unary {d : ℕ} {ts : List Token} {e : Expr} : Derives .unary d ts e → Derives .conjunction d ts e
  | and {d : ℕ} {ts us : List Token} {e f : Expr} : Derives .unary d ts e →
      Derives .conjunction d us f →
      Derives .conjunction d (ts ++ .and :: us) (.and (e.conjuncts ++ f.conjuncts))
  | not {d : ℕ} {ts : List Token} {e : Expr} : Derives .unary d ts e →
      Derives .unary (d + 1) (.not :: ts) (.not e)
  | group {d : ℕ} {ts : List Token} {e : Expr} : Derives .expression d ts e →
      Derives .unary (d + 1) (.openParen :: (ts ++ [.closeParen])) e
  | atom {d : ℕ} {ts : List Token} {e : Expr} : IsAtom ts e → Derives .unary d ts e

/-! ### Connectives -/

/-- The two connectives. -/
inductive Connective
  | and
  | or

namespace Connective

variable {k : Connective} {e f : Expr} {es : List Expr}

/-- The token between the terms. -/
def token : Connective → Token
  | .and => .and
  | .or => .or

/-- The expression with these terms. -/
def build : Connective → List Expr → Expr
  | .and => .and
  | .or => .or

/-- The terms of an expression with this connective, or the expression alone. -/
def terms : Connective → Expr → List Expr
  | .and => Expr.conjuncts
  | .or => Expr.disjuncts

/-- A list of expressions joined flat. -/
def join (k : Connective) (es : List Expr) : Option Expr :=
  Expr.connect k.build (es.flatMap k.terms)

@[simp] theorem terms_build (k : Connective) (es : List Expr) : k.terms (k.build es) = es := by
  cases k <;> rfl

/-- An expression stands alone as a term, or it is built of its terms. -/
theorem terms_cases (k : Connective) (e : Expr) : k.terms e = [e] ∨ e = k.build (k.terms e) := by
  cases k <;> cases e <;> first | exact .inl rfl | exact .inr rfl

theorem connect_of_two_le {build : List Expr → Expr} (h : 2 ≤ es.length) :
    Expr.connect build es = some (build es) := by
  match es, h with
  | _ :: _ :: _, _ => rfl

/-- There are two terms or more, or no connective; and no term has this connective. -/
structure IsFlat (k : Connective) (e : Expr) : Prop where
  join_singleton : k.join [e] = some e
  terms_eq : ∀ f ∈ k.terms e, k.terms f = [f]

theorem isFlat_of_terms (h : k.terms e = [e]) : k.IsFlat e := by
  refine ⟨?_, fun f hf => ?_⟩
  · rw [join, List.flatMap_singleton, h]
    rfl
  · rw [h] at hf
    rwa [List.mem_singleton.1 hf]

theorem IsFlat.terms_ne_nil (h : k.IsFlat e) : k.terms e ≠ [] := by
  intro hnil
  have hjoin := h.join_singleton
  rw [join, List.flatMap_singleton, hnil] at hjoin
  cases hjoin

/-- The terms of what was joined are the terms of its parts. -/
theorem terms_of_join (hes : ∀ e ∈ es, k.IsFlat e) (h : k.join es = some f) :
    k.terms f = es.flatMap k.terms := by
  unfold join at h
  match hterms : es.flatMap k.terms, h with
  | [g], h =>
    cases h
    -- a single term is a term of one of the parts, so it does not have this connective
    obtain ⟨e, he, hg⟩ := List.mem_flatMap.1 (hterms ▸ List.mem_singleton_self f)
    exact (hes e he).terms_eq f hg
  | g :: g' :: r, h =>
    cases h
    exact k.terms_build _

theorem join_cons (he : k.IsFlat e) (hes : ∀ e ∈ es, k.IsFlat e) (h : k.join es = some f) :
    k.join (e :: es) = some (k.build (k.terms e ++ k.terms f)) := by
  have hf := terms_of_join hes h
  have hne : k.terms f ≠ [] := by
    intro hnil
    rw [join, ← hf, hnil] at h
    cases h
  have hfirst := List.length_pos_of_ne_nil he.terms_ne_nil
  have hrest := List.length_pos_of_ne_nil hne
  rw [join, List.flatMap_cons, ← hf]
  exact connect_of_two_le (by rw [List.length_append]; omega)

theorem IsFlat.build (he : k.IsFlat e) (hf : k.IsFlat f) :
    k.IsFlat (k.build (k.terms e ++ k.terms f)) := by
  refine ⟨?_, fun g hg => ?_⟩
  · have hfirst := List.length_pos_of_ne_nil he.terms_ne_nil
    have hrest := List.length_pos_of_ne_nil hf.terms_ne_nil
    rw [join, List.flatMap_singleton, terms_build]
    exact connect_of_two_le (by rw [List.length_append]; omega)
  · rw [terms_build] at hg
    rcases List.mem_append.1 hg with hg | hg
    · exact he.terms_eq g hg
    · exact hf.terms_eq g hg

end Connective

theorem IsAtom.isFlat {ts : List Token} {e : Expr} (h : IsAtom ts e) (k : Connective) :
    k.IsFlat e := by
  cases h <;> cases k <;> exact Connective.isFlat_of_terms rfl

/-- What a phrase stands for is flat. -/
theorem Derives.isFlat {c : Phrase} {d : ℕ} {ts : List Token} {e : Expr} (h : Derives c d ts e)
    (k : Connective) :
    k.IsFlat e := by
  induction h with
  | conjunction _ ih => exact ih
  | unary _ ih => exact ih
  | group _ ih => exact ih
  | atom hatom => exact hatom.isFlat k
  | not => cases k <;> exact Connective.isFlat_of_terms rfl
  | or _ _ he hf =>
    cases k with
    | and => exact Connective.isFlat_of_terms rfl
    | or => exact Connective.IsFlat.build he hf
  | and _ _ he hf =>
    cases k with
    | and => exact Connective.IsFlat.build he hf
    | or => exact Connective.isFlat_of_terms rfl

/-! ### Chains -/

/-- Phrases of one kind with a token between them, and what they stand for. -/
inductive Chain (sep : Token) (P : List Token → Expr → Prop) : List Token → List Expr → Prop
  | one {ts : List Token} {e : Expr} : P ts e → Chain sep P ts [e]
  | more {ts us : List Token} {e : Expr} {es : List Expr} : P ts e → Chain sep P us es →
      Chain sep P (ts ++ sep :: us) (e :: es)

theorem Chain.forall {sep : Token} {P : List Token → Expr → Prop} {Q : Expr → Prop}
    (hP : ∀ ts e, P ts e → Q e) {ts : List Token} {es : List Expr} (h : Chain sep P ts es) :
    ∀ e ∈ es, Q e := by
  induction h with
  | one he => exact List.forall_mem_singleton.2 (hP _ _ he)
  | more he _ ih => exact List.forall_mem_cons.2 ⟨hP _ _ he, ih⟩

/-- If a phrase is a tighter one, alone or before the token of a connective and such a phrase again,
then it is a chain of tighter phrases, joined flat. -/
theorem Chain.join_iff {k : Connective} {P Q : List Token → Expr → Prop}
    (hP : ∀ ts e, P ts e → k.IsFlat e)
    (hQ : ∀ ts e, Q ts e ↔ P ts e ∨ ∃ us vs f g, P us f ∧ Q vs g ∧ ts = us ++ k.token :: vs ∧
      e = k.build (k.terms f ++ k.terms g)) {ts : List Token} {e : Expr} :
    Q ts e ↔ ∃ es, Chain k.token P ts es ∧ k.join es = some e := by
  constructor
  · -- by the number of tokens, as what follows the first connective is shorter and of this kind
    induction hn : ts.length using Nat.strong_induction_on generalizing ts e with
    | _ n ih =>
      intro h
      rcases (hQ ts e).1 h with h | ⟨us, vs, f, g, hf, hg, rfl, rfl⟩
      · exact ⟨[e], .one h, (hP ts e h).join_singleton⟩
      · obtain ⟨es, hchain, hjoin⟩ := ih vs.length (by simp at hn; omega) rfl hg
        exact ⟨f :: es, .more hf hchain, Connective.join_cons (hP us f hf) (hchain.forall hP) hjoin⟩
  · rintro ⟨es, hchain, hjoin⟩
    suffices ∃ f, k.join es = some f ∧ Q ts f by
      obtain ⟨f, hf, h⟩ := this
      rw [hjoin] at hf
      cases hf
      exact h
    clear hjoin
    induction hchain with
    | @one ts e h => exact ⟨e, (hP ts e h).join_singleton, (hQ ts e).2 (.inl h)⟩
    | @more ts us e es h hchain ih =>
      obtain ⟨f, hf, hq⟩ := ih
      refine ⟨_, Connective.join_cons (hP ts e h) (hchain.forall hP) hf, (hQ _ _).2 (.inr ?_)⟩
      exact ⟨ts, us, e, f, h, hq, rfl, rfl⟩

variable {d : ℕ} {ts : List Token} {e : Expr}

/-- A conjunction is a chain of unary phrases. -/
theorem derives_conjunction_iff :
    Derives .conjunction d ts e ↔ ∃ es, Chain .and (Derives .unary d) ts es ∧
      Connective.and.join es = some e := by
  refine Chain.join_iff (k := .and) (fun _ _ h => h.isFlat .and) fun ts e => ⟨fun h => ?_, ?_⟩
  · cases h with
    | unary h => exact .inl h
    | and h h' => exact .inr ⟨_, _, _, _, h, h', rfl, rfl⟩
  · rintro (h | ⟨us, vs, f, g, h, h', rfl, rfl⟩)
    · exact .unary h
    · exact .and h h'

/-- An expression is a chain of conjunctions. -/
theorem derives_expression_iff :
    Derives .expression d ts e ↔
      ∃ es, Chain .or (Derives .conjunction d) ts es ∧ Connective.or.join es = some e := by
  refine Chain.join_iff (k := .or) (fun _ _ h => h.isFlat .or) fun ts e => ⟨fun h => ?_, ?_⟩
  · cases h with
    | conjunction h => exact .inl h
    | or h h' => exact .inr ⟨_, _, _, _, h, h', rfl, rfl⟩
  · rintro (h | ⟨us, vs, f, g, h, h', rfl, rfl⟩)
    · exact .conjunction h
    · exact .or h h'

end Parley.Guard

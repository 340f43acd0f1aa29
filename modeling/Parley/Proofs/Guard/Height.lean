import Mathlib
import Parley.Guard.Eval
import Parley.Proofs.Guard.Evaluation
import Parley.Proofs.Guard.Shown

/-!
# How deep guards go

A connective raises an expression above its terms, and so does a negation.  A chain of connectives
is flat, so it is no higher than a single one; only brackets and negations let an expression grow,
two connectives at a time, and of these at most so many are open at once.  What is computed by
recursion on an expression goes no deeper than the expression.

* `Expr.parts`, `Expr.Occurs`, `Expr.height`: an expression as a tree;
* `Connective.IsFlat.of_build`, `Derives.isFlat_of_occurs`: what is read is flat everywhere;
* `Derives.height_unary`, `Derives.height_expression`: how high it is;
* `Expr.RecursesBy`, `Expr.RecursesBy.iterate_eq`: recursion on an expression, cut off at some
  depth;
* `parseExpr_shallow`.
-/

namespace Parley.Guard

variable {registry : Registry} {env : Environment}

/-! ### Expressions as trees -/

namespace Expr

variable {e f : Expr} {es : List Expr} {n : ℕ}

/-- The expressions that an expression is put together from. -/
def parts : Expr → List Expr
  | .not e => [e]
  | .and terms => terms
  | .or terms => terms
  | _ => []

/-- An expression stands somewhere in another one. -/
inductive Occurs (f : Expr) : Expr → Prop
  | self : Occurs f f
  | part {e t : Expr} : t ∈ e.parts → Occurs f t → Occurs f e

mutual

/-- The number of expressions on the longest way down. -/
def height : Expr → ℕ
  | .not e => height e + 1
  | .and terms => heightOf terms + 1
  | .or terms => heightOf terms + 1
  | _ => 1

/-- The height of the highest of the expressions. -/
def heightOf : List Expr → ℕ
  | [] => 0
  | e :: r => max (height e) (heightOf r)

end

theorem heightOf_le_iff : heightOf es ≤ n ↔ ∀ t ∈ es, t.height ≤ n := by
  induction es with
  | nil => simp [heightOf]
  | cons e es ih => rw [heightOf, max_le_iff, ih, List.forall_mem_cons]

theorem height_pos (e : Expr) : 0 < e.height := by
  cases e <;> simp [height]

theorem height_le_succ_iff : e.height ≤ n + 1 ↔ ∀ t ∈ e.parts, t.height ≤ n := by
  cases e with
  | not e => simp [height, parts]
  | and terms | or terms => rw [height, Nat.add_le_add_iff_right, heightOf_le_iff, parts]
  | literal | present | compare | call => simp [height, parts]

theorem height_le_of_mem_parts {t : Expr} (ht : t ∈ e.parts) : t.height ≤ e.height := by
  have hpos := e.height_pos
  have hle : e.height ≤ e.height - 1 + 1 := by omega
  exact (height_le_succ_iff.1 hle t ht).trans (Nat.sub_le _ _)

end Expr

/-! ### Flat expressions -/

namespace Connective

variable {k : Connective} {e f g t : Expr} {es : List Expr} {n : ℕ}

@[simp] theorem parts_build (k : Connective) (es : List Expr) : (k.build es).parts = es := by
  cases k <;> rfl

/-- A term is the expression itself or a part of it. -/
theorem eq_or_mem_parts (h : t ∈ k.terms e) : t = e ∨ t ∈ e.parts := by
  rcases k.terms_cases e with halone | hbuild
  · rw [halone, List.mem_singleton] at h
    exact .inl h
  · rw [hbuild, parts_build]
    exact .inr h

/-- No expression is its own only term. -/
theorem ne_build_of_terms (h : k.terms e = [e]) (es : List Expr) : e ≠ k.build es := by
  rintro rfl
  have hsize := congrArg sizeOf h
  rw [terms_build] at hsize
  cases k
  all_goals
    simp only [build, List.cons.sizeOf_spec, List.nil.sizeOf_spec, Expr.and.sizeOf_spec,
      Expr.or.sizeOf_spec] at hsize
    omega

/-- A flat connective has two terms or more, none of them with the same connective. -/
theorem IsFlat.of_build (h : k.IsFlat (k.build es)) :
    2 ≤ es.length ∧ ∀ t ∈ es, ∀ us, t ≠ k.build us := by
  have hjoin := h.join_terms
  have hterms := h.terms_eq
  rw [terms_build] at hjoin hterms
  refine ⟨?_, fun t ht => ne_build_of_terms (hterms t ht)⟩
  match es, hjoin with
  | [t], hjoin =>
    have hterm := hterms t List.mem_cons_self
    rw [join, List.flatMap_singleton, hterm] at hjoin
    exact absurd (Option.some.inj hjoin) (ne_build_of_terms hterm [t])
  | _ :: _ :: _, _ => exact Nat.le_add_left _ _

theorem height_le_of_mem_terms (h : t ∈ k.terms e) : t.height ≤ e.height := by
  rcases eq_or_mem_parts h with rfl | hpart
  · exact le_rfl
  · exact Expr.height_le_of_mem_parts hpart

/-- An expression is no higher than its terms, but for the connective. -/
theorem height_le_of_terms (h : ∀ t ∈ k.terms e, t.height ≤ n) : e.height ≤ n + 1 := by
  rcases k.terms_cases e with halone | hbuild
  · rw [halone, List.forall_mem_singleton] at h
    exact h.trans n.le_succ
  · rw [hbuild, Expr.height_le_succ_iff, parts_build]
    exact h

/-- Joining adds the connective once, however many expressions are joined. -/
theorem height_join (hes : ∀ e ∈ es, k.IsFlat e) (h : k.join es = some f)
    (hle : ∀ e ∈ es, e.height ≤ n) :
    f.height ≤ n + 1 := by
  refine height_le_of_terms (k := k) fun t ht => ?_
  rw [terms_of_join hes h] at ht
  obtain ⟨e, he, hte⟩ := List.mem_flatMap.1 ht
  exact (height_le_of_mem_terms hte).trans (hle e he)

theorem occurs_of_terms (ht : t ∈ k.terms e) (h : f.Occurs t) : f.Occurs e := by
  rcases eq_or_mem_parts ht with rfl | hpart
  · exact h
  · exact .part hpart h

/-- What occurs in joined terms is what they are joined to, or it occurs in one of them. -/
theorem occurs_build (h : f.Occurs (k.build (k.terms e ++ k.terms g))) :
    f = k.build (k.terms e ++ k.terms g) ∨ f.Occurs e ∨ f.Occurs g := by
  generalize hbuild : k.build (k.terms e ++ k.terms g) = whole at h
  cases h with
  | self => exact .inl rfl
  | part ht hf =>
    rw [← hbuild, parts_build] at ht
    exact .inr ((List.mem_append.1 ht).imp (occurs_of_terms · hf) (occurs_of_terms · hf))

end Connective

theorem IsAtom.height_le {ts : List Token} {e : Expr} (h : IsAtom ts e) : e.height ≤ 2 := by
  cases h <;> simp [Expr.height]

namespace Derives

variable {c : Phrase} {d n : ℕ} {ts : List Token} {e f : Expr}

/-- **What a phrase stands for is flat everywhere.** -/
theorem isFlat_of_occurs (h : Derives c d ts e) (hf : f.Occurs e) (k : Connective) :
    k.IsFlat f := by
  induction h with
  | conjunction _ ih | unary _ ih | group _ ih => exact ih hf
  | or he hg ihe ihg =>
    rcases Connective.occurs_build (k := .or) hf with rfl | hf | hf
    · exact (he.or hg).isFlat k
    · exact ihe hf
    · exact ihg hf
  | and he hg ihe ihg =>
    rcases Connective.occurs_build (k := .and) hf with rfl | hf | hf
    · exact (he.and hg).isFlat k
    · exact ihe hf
    · exact ihg hf
  | not he ih =>
    cases hf with
    | self => exact he.not.isFlat k
    | part ht hf =>
      rw [List.mem_singleton.1 ht] at hf
      exact ih hf
  | atom he =>
    -- only what is missing has a part, which is what is present
    cases hf with
    | self => exact he.isFlat k
    | part ht hf =>
      cases he with
      | missing ho =>
        rw [List.mem_singleton.1 ht] at hf
        cases hf with
        | self => exact (IsAtom.present ho ‹_› ‹_›).isFlat k
        | part ht => cases ht
      | _ => cases ht

/-! ### Height -/

/-- What is read with a connective is higher than what is read without it by one. -/
theorem height_loose {k : Connective} (htight : ∀ ts e, Derives k.tight d ts e → e.height ≤ n)
    (h : Derives k.loose d ts e) : e.height ≤ n + 1 := by
  obtain ⟨es, hchain, hjoin⟩ := k.derives_loose_iff.1 h
  exact Connective.height_join (hchain.forall fun _ _ he => he.isFlat k) hjoin
    (hchain.forall htight)

theorem height_expression (hunary : ∀ ts e, Derives .unary d ts e → e.height ≤ n)
    (h : Derives .expression d ts e) :
    e.height ≤ n + 2 :=
  height_loose (k := .or) (fun _ _ => height_loose (k := .and) hunary) h

/-- With each bracket two connectives may be added, and with each negation only that. -/
theorem height_unary (h : Derives .unary d ts e) : e.height ≤ 2 * d + 2 := by
  induction d generalizing ts e with
  | zero =>
    cases h with
    | atom he => exact he.height_le
  | succ d ih =>
    cases h with
    | not he =>
      have hle := ih he
      rw [Expr.height]
      omega
    | group he => exact height_expression (fun _ _ => ih) he
    | atom he => exact he.height_le.trans (Nat.le_add_left _ _)

end Derives

/-! ### Recursion on expressions -/

namespace Expr

variable {α : Type} {body : (Expr → α) → Expr → α} {f : Expr → α} {e : Expr} {n : ℕ}

/-- A function on expressions calls itself for parts of its argument only.  Its body is given the
function to call. -/
structure RecursesBy (body : (Expr → α) → Expr → α) (f : Expr → α) : Prop where
  eq (e : Expr) : f e = body f e
  congr {e : Expr} {g h : Expr → α} : (∀ t ∈ e.parts, g t = h t) → body g e = body h e

/-- **Calls go no deeper than the height.**  With so many calls open no other one is made, so it
does not matter what it would return. -/
theorem RecursesBy.iterate_eq (hf : RecursesBy body f) (beyond : Expr → α) (hle : e.height ≤ n) :
    body^[n] beyond e = f e := by
  induction n generalizing e with
  | zero => exact absurd hle (Nat.not_le.2 e.height_pos)
  | succ n ih =>
    rw [Function.iterate_succ_apply', hf.eq]
    exact hf.congr fun t ht => ih (height_le_succ_iff.1 hle t ht)

/-- How an expression is evaluated, but for the values of its parts. -/
def evalBody (registry : Registry) (env : Environment) (next : Expr → Except Error Bool) :
    Expr → Except Error Bool
  | .literal b => .ok b
  | .present o => .ok (env.resolve o).isSome
  | .compare left op right =>
      match env.resolve left, env.resolve right with
      | some l, some r => Guard.compare l op r
      | _, _ => .ok false
  | .call name args => do
      let p ← registry.resolve name args.length
      p.call (args.map env.resolve)
  | .not e => (next e).map (!·)
  | .and terms => terms.allM next
  | .or terms => terms.anyM next

/-- How an expression is written, but for the texts of its parts. -/
def charsBody (next : Expr → List Char) : Expr → List Char
  | .literal true => "true".toList
  | .literal false => "false".toList
  | .present o => o.chars ++ " present".toList
  | .compare left op right => left.chars ++ [' '] ++ op.symbol.toList ++ [' '] ++ right.chars
  | .call name args => name.toList ++ ['('] ++ joined ", ".toList (args.map Operand.chars) ++ [')']
  | .not (.present o) => o.chars ++ " missing".toList
  | .not e => "NOT ".toList ++ bracketed (e.precedence < 3) (next e)
  | .and terms => joined " AND ".toList (terms.map fun t => bracketed (t.precedence ≤ 2) (next t))
  | .or terms => joined " OR ".toList (terms.map fun t => bracketed (t.precedence ≤ 1) (next t))

/-- How the calls of an expression are gathered to be checked, but for those of its parts. -/
def callsBody (next : Expr → List (String × List Operand)) : Expr → List (String × List Operand)
  | .call name args => [(name, args)]
  | .not e => next e
  | .and terms => terms.flatMap next
  | .or terms => terms.flatMap next
  | _ => []

theorem allM_congr {ε : Type} {g h : Expr → Except ε Bool} {es : List Expr}
    (hes : ∀ t ∈ es, g t = h t) :
    es.allM g = es.allM h := by
  induction es with
  | nil => rfl
  | cons e es ih =>
    obtain ⟨he, hes⟩ := List.forall_mem_cons.1 hes
    rw [List.allM, List.allM, he, ih hes]

theorem anyM_congr {ε : Type} {g h : Expr → Except ε Bool} {es : List Expr}
    (hes : ∀ t ∈ es, g t = h t) :
    es.anyM g = es.anyM h := by
  induction es with
  | nil => rfl
  | cons e es ih =>
    obtain ⟨he, hes⟩ := List.forall_mem_cons.1 hes
    rw [List.anyM, List.anyM, he, ih hes]

theorem eval_recursesBy (registry : Registry) (env : Environment) :
    RecursesBy (evalBody registry env) (eval registry env) where
  eq e := by
    cases e with
    | and terms => exact Connective.and.eval_build terms
    | or terms => exact Connective.or.eval_build terms
    | _ => rfl
  congr {e g h} hparts := by
    cases e with
    | not e => exact congrArg (Except.map (!·)) (hparts e List.mem_cons_self)
    | and terms => exact allM_congr hparts
    | or terms => exact anyM_congr hparts
    | _ => rfl

theorem chars_recursesBy : RecursesBy charsBody chars where
  eq e := by
    cases e with
    | literal b => cases b <;> rfl
    | not e => cases e <;> rfl
    | and terms => exact congrArg (joined _) (Connective.termChars_eq .unary terms)
    | or terms => exact congrArg (joined _) (Connective.termChars_eq .conjunction terms)
    | _ => rfl
  congr {e g h} hparts := by
    have hterms (level : ℕ) {terms : List Expr} (hterms : ∀ t ∈ terms, g t = h t) :
        (terms.map fun t => bracketed (t.precedence ≤ level) (g t)) =
          terms.map fun t => bracketed (t.precedence ≤ level) (h t) :=
      List.map_congr_left fun t ht => by rw [hterms t ht]
    cases e with
    | not e =>
      have he := hparts e List.mem_cons_self
      cases e <;> first | rfl | exact congrArg (fun cs => "NOT ".toList ++ bracketed _ cs) he
    | and terms => exact congrArg (joined _) (hterms 2 hparts)
    | or terms => exact congrArg (joined _) (hterms 1 hparts)
    | literal b => cases b <;> rfl
    | _ => rfl

theorem calls_recursesBy : RecursesBy callsBody calls where
  eq e := by
    cases e with
    | and terms | or terms => exact callsOf_eq_flatMap terms
    | _ => rfl
  congr {e g h} hparts := by
    cases e with
    | not e => exact hparts e List.mem_cons_self
    | and terms | or terms => exact List.flatMap_congr hparts
    | _ => rfl

end Expr

/-- **A guard that is read is flat and not high.**  Each of its connectives has two terms or more,
none of them with the same connective, and its height is at most 132, however long it is.  To
evaluate it, to write it and to gather the calls that are checked takes no more than 132 calls that
are open at a time. -/
theorem parseExpr_shallow {text : String} {e : Expr} (h : parseExpr text = .ok e) :
    (∀ (k : Connective) (terms : List Expr), (k.build terms).Occurs e →
      2 ≤ terms.length ∧ ∀ t ∈ terms, ∀ us, t ≠ k.build us) ∧
    e.height ≤ 132 ∧
    (∀ registry env beyond, (Expr.evalBody registry env)^[132] beyond e = e.eval registry env) ∧
    (∀ beyond, String.ofList (Expr.charsBody^[132] beyond e) = e.shown) ∧
    ∀ registry beyond,
      ((Expr.callsBody^[132] beyond e).forM fun (name, args) => registry.check name args) =
      e.check registry := by
  obtain ⟨-, ts, -, -, hderives⟩ := parseChars_eq_ok_iff.1 (parseExpr_eq_ok_iff.1 h)
  have hheight : e.height ≤ 132 :=
    Derives.height_expression (fun _ _ => Derives.height_unary) hderives
  refine ⟨fun k terms hoccurs => (hderives.isFlat_of_occurs hoccurs k).of_build, hheight,
    fun registry env beyond => ?_, fun beyond => ?_, fun registry beyond => ?_⟩
  · exact (Expr.eval_recursesBy registry env).iterate_eq beyond hheight
  · rw [Expr.chars_recursesBy.iterate_eq beyond hheight, Expr.shown]
  · rw [Expr.calls_recursesBy.iterate_eq beyond hheight, Expr.check]

/-- A bracket and a negation that is not written are levels of their own; the brackets around a
chain in a longer one are not. -/
theorem parseExpr_shallow_nested :
    let e : Expr := .and [.present (.answer "a"), .present (.answer "b"),
      .or [.not (.present (.answer "c")), .present (.answer "d")]]
    parseExpr "a present AND (b present AND (c missing OR d present))" = .ok e ∧ e.height = 4 ∧
      ∀ registry env beyond, (Expr.evalBody registry env)^[132] beyond e = e.eval registry env := by
  intro e
  have hname (d : ℕ) (name : String) (hname : ¬"ctx.".toList <+: name.toList) :
      Derives .unary d [.name name, .present] (.present (.answer name)) :=
    .atom (.present (.answer hname) nofun nofun)
  have hmissing : Derives .conjunction 62 [.name "c", .missing] (.not (.present (.answer "c"))) :=
    .unary (.atom (.missing (.answer (by decide)) nofun nofun))
  have hor := (hmissing.or (.conjunction (.unary (hname 62 "d" (by decide))))).group
  have hand := (hname 63 "b" (by decide)).and (.unary hor)
  have hall := (hname 64 "a" (by decide)).and (.unary (Derives.conjunction hand).group)
  have hread : parseExpr "a present AND (b present AND (c missing OR d present))" = .ok e :=
    parseExpr_of_derives (by decide +kernel) (by decide +kernel) (by decide) (.conjunction hall)
  exact ⟨hread, by decide, (parseExpr_shallow hread).2.2.1⟩

end Parley.Guard

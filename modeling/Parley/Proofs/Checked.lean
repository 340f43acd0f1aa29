import Mathlib

/-!
# Computations that may be refused

What is known when a computation in `Except` has succeeded: all its parts have, each with a value of
its own.  When it has been refused, one of them has been.
-/

namespace Parley

universe u v w

variable {ε : Type u} {α β : Type v}

theorem exists_of_isOk {x : Except ε α} (h : x.isOk = true) : ∃ a, x = .ok a := by
  cases x with
  | ok a => exact ⟨a, rfl⟩
  | error e => cases h

theorem bind_eq_ok {x : Except ε α} {f : α → Except ε β} {b : β} :
    (x >>= f) = .ok b ↔ ∃ a, x = .ok a ∧ f a = .ok b := by
  cases x <;> simp [bind, Except.bind]

theorem exists_bind_iff {x : Except ε α} {f : α → Except ε β} :
    (∃ b, (x >>= f) = .ok b) ↔ ∃ a, x = .ok a ∧ ∃ b, f a = .ok b := by
  cases x <;> simp [bind, Except.bind]

theorem pure_eq_ok {a b : α} : (pure a : Except ε α) = .ok b ↔ a = b := by
  simp [pure, Except.pure]

theorem map_eq_ok {x : Except ε α} {f : α → β} {b : β} :
    x.map f = .ok b ↔ ∃ a, x = .ok a ∧ f a = b := by
  cases x <;> simp [Except.map]

theorem mapError_eq_ok {δ : Type w} {x : Except ε α} {f : ε → δ} {a : α} :
    x.mapError f = .ok a ↔ x = .ok a := by
  cases x <;> simp [Except.mapError]

/-- A test that throws has been passed. -/
theorem ite_throw_eq_ok {p : Prop} [Decidable p] {e : ε} {f : α → Except ε β}
    {x : Except ε β} {b : β} :
    (if p then throw e >>= f else x) = .ok b ↔ ¬ p ∧ x = .ok b := by
  split <;> simp_all [bind, Except.bind, throw, throwThe, MonadExceptOf.throw]

theorem exists_ite_throw_iff {p : Prop} [Decidable p] {e : ε} {a : α} :
    (∃ b, (if p then throw e else pure a : Except ε α) = .ok b) ↔ ¬ p := by
  split <;> simp_all [pure, Except.pure, throw, throwThe, MonadExceptOf.throw]

theorem mapM_eq_ok {f : α → Except ε β} {as : List α} {bs : List β} :
    as.mapM f = .ok bs ↔ List.Forall₂ (fun a b => f a = .ok b) as bs := by
  induction as generalizing bs with
  | nil => cases bs <;> simp [pure, Except.pure]
  | cons a as ih =>
    rw [List.mapM_cons, bind_eq_ok]
    constructor
    · rintro ⟨b, hb, h⟩
      obtain ⟨cs, hcs, h⟩ := bind_eq_ok.1 h
      rw [← pure_eq_ok.1 h]
      exact .cons hb (ih.1 hcs)
    · intro h
      cases h with
      | cons hb hbs => exact ⟨_, hb, bind_eq_ok.2 ⟨_, ih.2 hbs, rfl⟩⟩

theorem option_mapM_eq_ok {f : α → Except ε β} {o : Option α} {r : Option β} :
    o.mapM f = .ok r ↔ (o = none ∧ r = none) ∨ ∃ a b, o = some a ∧ f a = .ok b ∧ r = some b := by
  cases o with
  | none => simp [Option.mapM, pure, Except.pure, eq_comm]
  | some a =>
    simp only [Option.mapM, Functor.map, map_eq_ok]
    constructor
    · rintro ⟨b, hb, rfl⟩
      exact .inr ⟨a, b, rfl, hb, rfl⟩
    · rintro (⟨h, -⟩ | ⟨a', b, h, hb, rfl⟩)
      · cases h
      · cases h
        exact ⟨b, hb, rfl⟩

theorem forM_eq_ok {f : α → Except ε PUnit} {as : List α} :
    as.forM f = .ok ⟨⟩ ↔ ∀ a ∈ as, f a = .ok ⟨⟩ := by
  induction as with
  | nil => simp [pure, Except.pure]
  | cons a as ih =>
    show (f a >>= fun _ => as.forM f) = .ok ⟨⟩ ↔ _
    rw [bind_eq_ok, List.forall_mem_cons]
    constructor
    · rintro ⟨⟨⟩, ha, has⟩
      exact ⟨ha, ih.1 has⟩
    · rintro ⟨ha, has⟩
      exact ⟨⟨⟩, ha, ih.2 has⟩

/-- A member of the second of two related lists is related to one of the first. -/
theorem exists_of_forall₂_right {R : α → β → Prop} {as : List α} {bs : List β}
    (h : List.Forall₂ R as bs) {b : β} (hb : b ∈ bs) : ∃ a ∈ as, R a b := by
  induction h with
  | nil => simp at hb
  | cons hab _ ih =>
    rcases List.mem_cons.1 hb with rfl | hb
    · exact ⟨_, List.mem_cons_self, hab⟩
    · obtain ⟨a, ha, h⟩ := ih hb
      exact ⟨a, List.mem_cons_of_mem _ ha, h⟩

theorem map_eq_map_of_forall₂ {γ : Type w} {f : α → γ} {g : β → γ} {as : List α} {bs : List β}
    (h : List.Forall₂ (fun a b => f a = g b) as bs) : as.map f = bs.map g := by
  rw [← List.forall₂_eq_eq_eq, List.forall₂_map_left_iff, List.forall₂_map_right_iff]
  exact h

theorem exists_mapM_iff {f : α → Except ε β} {as : List α} :
    (∃ bs, as.mapM f = .ok bs) ↔ ∀ a ∈ as, ∃ b, f a = .ok b := by
  constructor
  · rintro ⟨bs, hbs⟩ a ha
    obtain ⟨b, -, hb⟩ := exists_of_forall₂_right (mapM_eq_ok.1 hbs).flip ha
    exact ⟨b, hb⟩
  · intro h
    induction as with
    | nil => exact ⟨[], rfl⟩
    | cons a as ih =>
      obtain ⟨⟨b, hb⟩, has⟩ := List.forall_mem_cons.1 h
      obtain ⟨bs, hbs⟩ := ih has
      exact ⟨b :: bs, mapM_eq_ok.2 (.cons hb (mapM_eq_ok.1 hbs))⟩

theorem exists_option_mapM_iff {f : α → Except ε β} {o : Option α} :
    (∃ r, o.mapM f = .ok r) ↔ ∀ a ∈ o.toList, ∃ b, f a = .ok b := by
  cases o with
  | none => simp [Option.mapM, pure, Except.pure]
  | some a => simp [Option.mapM, Functor.map, map_eq_ok]

/-! ### Refusal -/

theorem bind_eq_error {x : Except ε α} {f : α → Except ε β} {e : ε} :
    (x >>= f) = .error e ↔ x = .error e ∨ ∃ a, x = .ok a ∧ f a = .error e := by
  cases x <;> simp [bind, Except.bind]

theorem mapError_eq_error {δ : Type w} {x : Except ε α} {f : ε → δ} {d : δ} :
    x.mapError f = .error d ↔ ∃ e, x = .error e ∧ f e = d := by
  cases x <;> simp [Except.mapError]

/-- A test that throws has failed, or what comes after it has. -/
theorem ite_throw_eq_error {p : Prop} [Decidable p] {e d : ε} {f : α → Except ε β}
    {x : Except ε β} :
    (if p then throw e >>= f else x) = .error d ↔ p ∧ e = d ∨ ¬ p ∧ x = .error d := by
  split <;> simp_all [bind, Except.bind, throw, throwThe, MonadExceptOf.throw]

theorem exists_of_forM_eq_error {f : α → Except ε PUnit} {as : List α} {e : ε}
    (h : as.forM f = .error e) :
    ∃ a ∈ as, f a = .error e := by
  induction as with
  | nil => cases h
  | cons a as ih =>
    rcases bind_eq_error.1 (show (f a >>= fun _ => as.forM f) = .error e from h) with
      ha | ⟨-, -, has⟩
    · exact ⟨a, List.mem_cons_self, ha⟩
    · obtain ⟨b, hb, hfb⟩ := ih has
      exact ⟨b, List.mem_cons_of_mem _ hb, hfb⟩

/-! ### Success and refusal -/

/-- What a computation leads to: one thing if it succeeds, and another if it is refused. -/
def Ends (P : α → Prop) (E : ε → Prop) : Except ε α → Prop
  | .ok a => P a
  | .error e => E e

variable {P : α → Prop} {Q : β → Prop} {E : ε → Prop}

theorem Ends.bind {x : Except ε α} {f : α → Except ε β} (hx : Ends P E x)
    (hf : ∀ a, P a → Ends Q E (f a)) :
    Ends Q E (x >>= f) := by
  cases x with
  | ok a => exact hf a hx
  | error e => exact hx

theorem Ends.imp {P' : α → Prop} {x : Except ε α} (hx : Ends P E x) (h : ∀ a, P a → P' a) :
    Ends P' E x := by
  cases x with
  | ok a => exact h a hx
  | error e => exact hx

theorem Ends.cases {x : Except ε α} (hx : Ends P E x) :
    (∃ a, x = .ok a ∧ P a) ∨ ∃ e, x = .error e ∧ E e := by
  cases x with
  | ok a => exact .inl ⟨a, rfl, hx⟩
  | error e => exact .inr ⟨e, rfl, hx⟩

/-- What each step of a fold keeps of the elements that it has passed, the fold keeps of all. -/
theorem foldlM_ends {f : β → α → Except ε β} {P : List α → β → Prop} {as : List α}
    (hstep : ∀ passed a b, a ∈ as → P passed b → Ends (P (passed ++ [a])) E (f b a)) {b : β}
    (hb : P [] b) :
    Ends (P as) E (as.foldlM f b) := by
  suffices ∀ passed rest b, (∀ a ∈ rest, a ∈ as) → P passed b →
      Ends (P (passed ++ rest)) E (rest.foldlM f b) from this [] as b (fun _ h => h) hb
  intro passed rest
  induction rest generalizing passed with
  | nil =>
    intro b _ hb
    rwa [List.append_nil]
  | cons a rest ih =>
    intro b hmem hb
    obtain ⟨ha, hrest⟩ := List.forall_mem_cons.1 hmem
    rw [List.foldlM_cons, List.append_cons]
    exact (hstep passed a b ha hb).bind fun b' hb' => ih (passed ++ [a]) b' hrest hb'

/-- What each step of a fold that succeeds keeps, the fold keeps. -/
theorem foldlM_induction {f : β → α → Except ε β} {P : List α → β → Prop} {as : List α} {b b' : β}
    (h : as.foldlM f b = .ok b') (hb : P [] b)
    (hstep : ∀ passed a c c', a ∈ as → P passed c → f c a = .ok c' → P (passed ++ [a]) c') :
    P as b' := by
  have hends : Ends (P as) (fun _ => True) (as.foldlM f b) := by
    refine foldlM_ends (fun passed a c ha hc => ?_) hb
    cases hfc : f c a with
    | ok c' => exact hstep passed a c c' ha hc hfc
    | error _ => trivial
  rw [h] at hends
  exact hends

end Parley

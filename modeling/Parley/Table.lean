/-!
# Tables

A `Table` maps keys of any kind to values.  It is a list of entries in order of first insertion;
`set` replaces the value of a key where it stands.
-/

namespace Parley

universe u v

/-- Entries with keys that can be compared. -/
abbrev Table (κ : Type u) (α : Type v) := List (κ × α)

namespace Table

variable {κ : Type u} {α : Type v} [DecidableEq κ]

/-- The value of the first entry with this key. -/
def get? : Table κ α → κ → Option α
  | [], _ => none
  | (k, v) :: r, key => if k = key then some v else get? r key

/-- Replace the value of a key where it stands, or else put it at the end. -/
def set : Table κ α → κ → α → Table κ α
  | [], key, value => [(key, value)]
  | (k, v) :: r, key, value => if k = key then (key, value) :: r else (k, v) :: set r key value

/-- Leave out the entries with a key. -/
def erase (t : Table κ α) (key : κ) : Table κ α := t.filter fun e => e.1 ≠ key

@[simp] theorem get?_nil (key : κ) : get? ([] : Table κ α) key = none := rfl

theorem get?_set (t : Table κ α) (key k : κ) (value : α) :
    (t.set key value).get? k = if key = k then some value else t.get? k := by
  induction t with
  | nil => simp [set, get?]
  | cons e r ih =>
    obtain ⟨k', v'⟩ := e
    simp only [set]
    split
    · rename_i h; subst h
      by_cases hk : k' = k <;> simp [get?, hk]
    · rename_i h
      simp only [get?, ih]
      by_cases hk : k' = k
      · subst hk; simp [Ne.symm h]
      · simp [hk]

theorem get?_erase (t : Table κ α) (key k : κ) :
    (t.erase key).get? k = if key = k then none else t.get? k := by
  induction t with
  | nil => simp [erase]
  | cons e r ih =>
    obtain ⟨k', v'⟩ := e
    simp only [erase] at ih
    by_cases h : k' = key
    · subst h
      simp only [erase, List.filter_cons, ne_eq, not_true_eq_false, decide_false,
        Bool.false_eq_true, if_false, ih, get?]
      by_cases hk : k' = k <;> simp [hk]
    · simp only [erase, List.filter_cons, ne_eq, h, not_false_eq_true, decide_true,
        if_true, get?, ih]
      by_cases hk : k' = k
      · subst hk; simp [Ne.symm h]
      · simp [hk]

end Table

end Parley

/-!
# Dictionaries

A `Dict` maps texts to values.  It is a list of entries; `insert` keeps the keys increasing, and
`Ordered` says that they are.
-/

namespace Parley

universe u v

/-- Entries with texts as keys. -/
abbrev Dict (α : Type u) := List (String × α)

namespace Dict

variable {α : Type u} {β : Type v}

/-- The keys increase, so that each occurs once. -/
def Ordered (d : Dict α) : Prop := d.Pairwise fun a b => a.1 < b.1

def keys (d : Dict α) : List String := d.map (·.1)

def values (d : Dict α) : List α := d.map (·.2)

/-- The value of the first entry with this key. -/
def get? : Dict α → String → Option α
  | [], _ => none
  | (k, v) :: r, key => if k = key then some v else get? r key

def contains (d : Dict α) (key : String) : Bool := (d.get? key).isSome

/-- Put an entry in its place among increasing keys, replacing one with the same key. -/
def insert (d : Dict α) (key : String) (value : α) : Dict α :=
  match d with
  | [] => [(key, value)]
  | (k, v) :: r =>
      if key < k then (key, value) :: (k, v) :: r
      else if k = key then (key, value) :: r
      else (k, v) :: insert r key value

/-- Leave out the entries with a key. -/
def erase (d : Dict α) (key : String) : Dict α := d.filter fun e => e.1 ≠ key

/-- Insert entries from left to right; of two with the same key the later one stays. -/
def ofList (entries : List (String × α)) : Dict α :=
  entries.foldl (fun d e => d.insert e.1 e.2) []

/-- Apply a function to the values. -/
def mapValues (d : Dict α) (f : α → β) : Dict β := d.map fun e => (e.1, f e.2)

@[simp] theorem get?_nil (key : String) : get? ([] : Dict α) key = none := rfl

theorem get?_insert (d : Dict α) (key k : String) (value : α) :
    (d.insert key value).get? k = if key = k then some value else d.get? k := by
  induction d with
  | nil => simp [insert, get?]
  | cons e r ih =>
    obtain ⟨k', v'⟩ := e
    simp only [insert]
    split
    · simp [get?]
    · split
      · rename_i h; subst h
        by_cases hk : k' = k <;> simp [get?, hk]
      · rename_i hne
        simp only [get?, ih]
        by_cases hk : k' = k
        · subst hk; simp [Ne.symm hne]
        · simp [hk]

theorem get?_erase (d : Dict α) (key k : String) :
    (d.erase key).get? k = if key = k then none else d.get? k := by
  induction d with
  | nil => simp [erase]
  | cons e r ih =>
    obtain ⟨k', v'⟩ := e
    simp only [erase] at ih
    by_cases h : k' = key
    · subst h
      simp only [erase, List.filter_cons, ne_eq, not_true_eq_false, decide_false,
        Bool.false_eq_true, if_false, ih, get?]
      by_cases hk : k' = k <;> simp [hk]
    · simp only [erase, List.filter_cons, ne_eq, h, not_false_eq_true, decide_true,
        if_true, get?, ih]
      by_cases hk : k' = k
      · subst hk; simp [Ne.symm h]
      · simp [hk]

end Dict

end Parley

/-!
# Sets of characters

A set of characters is a list of inclusive ranges of code points.  The tables of the neighbouring
modules are such lists, in increasing order.
-/

namespace Parley.Text

/-- A set of characters: inclusive ranges of code points. -/
abbrev Ranges := List (Nat × Nat)

namespace Ranges

def contains (r : Ranges) (c : Char) : Bool :=
  r.any fun p => decide (p.1 ≤ c.toNat) && decide (c.toNat ≤ p.2)

@[simp] theorem contains_nil (c : Char) : contains [] c = false := rfl

theorem contains_append (r s : Ranges) (c : Char) :
    contains (r ++ s) c = (contains r c || contains s c) := List.any_append

end Ranges

end Parley.Text

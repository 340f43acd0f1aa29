import Parley.Text.Fold
import Parley.Text.Ranges

/-!
# Character sets of patterns

Sets built from ranges by complement, union, intersection and differences.  A set of ranges that
ignores case holds every character that shares its fold with one in the ranges; complements come
after that.
-/

namespace Parley.Pattern

inductive CharSet
  | ranges (r : Text.Ranges)
  | folded (r : Text.Ranges)
  | compl (s : CharSet)
  | union (s t : CharSet)
  | inter (s t : CharSet)
  | diff (s t : CharSet)
  | symmDiff (s t : CharSet)
  deriving Inhabited

namespace CharSet

def contains : CharSet → Char → Bool
  | .ranges r, c => r.contains c
  | .folded r, c => (Text.orbit c).any r.contains
  | .compl s, c => !s.contains c
  | .union s t, c => s.contains c || t.contains c
  | .inter s t, c => s.contains c && t.contains c
  | .diff s t, c => s.contains c && !t.contains c
  | .symmDiff s t, c => s.contains c != t.contains c

/-- The set of one character. -/
def single (c : Char) : CharSet := .ranges [(c.toNat, c.toNat)]

/-- The number of ranges that make up a set. -/
def weight : CharSet → Nat
  | .ranges r => r.length
  | .folded r => 2 * r.length
  | .compl s => s.weight
  | .union s t => s.weight + t.weight
  | .inter s t => s.weight + t.weight
  | .diff s t => s.weight + t.weight
  | .symmDiff s t => s.weight + t.weight

end CharSet

end Parley.Pattern

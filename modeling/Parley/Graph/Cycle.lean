/-!
# Cycles

A depth-first search over labelled arcs.  `findCycle` goes through the starting points in order and
follows arcs in order; it reports the first arc that leads back to a point still being visited.
-/

namespace Parley

variable {α β : Type}

/-- A closed walk: the points from the repeated one to the last, the repeated point, and the label
of the arc that closes the walk. -/
structure ClosedWalk (α β : Type) where
  points : List α
  closing : α
  label : β

namespace ClosedWalk

/-- The walk with its first point at both ends. -/
def path (w : ClosedWalk α β) : List α := w.points ++ [w.closing]

end ClosedWalk

variable [DecidableEq α]

/-- Visit a point below a stack of points being visited, last first, and return the points that are
done.  The bound is on the number of points that may be on the stack. -/
def visit (arcs : α → List (β × α)) : Nat → List α → List α → α → Except (ClosedWalk α β) (List α)
  | 0, _, done, _ => .ok done
  | n + 1, stack, done, a => do
      let done ← (arcs a).foldlM (fun (done : List α) (label, b) =>
        if b ∈ a :: stack then
          throw ⟨b :: ((a :: stack).takeWhile (· ≠ b)).reverse, b, label⟩
        else if b ∈ done then pure done
        else visit arcs n (a :: stack) done b) done
      pure (a :: done)

/-- Look for a cycle among points; `bound` is at least their number. -/
def findCycle (arcs : α → List (β × α)) (bound : Nat) (starts : List α) :
    Except (ClosedWalk α β) Unit := do
  let _ ← starts.foldlM (fun (done : List α) a =>
    if a ∈ done then pure done else visit arcs bound [] done a) []
  pure ()

end Parley

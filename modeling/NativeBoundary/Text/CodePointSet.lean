/-!
# Sets of code points

A set of code points is given by its boundaries in ascending order: at the first
one the set begins, at the second one it ends, and so on.
-/

namespace NativeBoundary.Text

/-- A set of code points, by its boundaries. -/
structure CodePointSet where
  boundaries : List Nat
deriving Repr

namespace CodePointSet

/-- Whether an odd number of boundaries lies at or before a code point. -/
def within (point : Nat) : List Nat → Bool
  | [] => false
  | boundary :: rest => if point < boundary then false else !within point rest

def contains (set : CodePointSet) (point : Nat) : Bool :=
  within point set.boundaries

theorem within_of_lt {point boundary : Nat} (rest : List Nat) (below : point < boundary) :
    within point (boundary :: rest) = false := by
  simp [within, below]

end CodePointSet

end NativeBoundary.Text

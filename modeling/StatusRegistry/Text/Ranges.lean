/-!
# Ranges of code points

Sets of characters as closed ranges of code points, and values given to such ranges.  The ranges
stand in ascending order, so a search ends at the first range that lies behind its code point.
-/

set_option autoImplicit false

namespace StatusRegistry.Text

/-- Whether a code point lies in one of the ascending ranges. -/
def inRanges (n : Nat) : List (Nat × Nat) → Bool
  | [] => false
  | (low, high) :: rest => if n < low then false else if n ≤ high then true else inRanges n rest

/-- The value of the one of the ascending ranges in which a code point lies. -/
def valueAt {α : Type} (n : Nat) : List (Nat × Nat × α) → Option α
  | [] => none
  | (low, high, value) :: rest =>
    if n < low then none else if n ≤ high then some value else valueAt n rest

end StatusRegistry.Text

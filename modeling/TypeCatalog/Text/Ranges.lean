/-!
# Classes of characters as ranges

A class of characters is given by ascending, separate ranges of code points.
-/

namespace TypeCatalog.Text

/-- Whether a code point lies in one of the ascending ranges; ranges above it are not looked at. -/
def inRanges (n : Nat) : List (Nat × Nat) → Bool
  | [] => false
  | (low, high) :: rest => if n ≤ high then decide (low ≤ n) else inRanges n rest

end TypeCatalog.Text

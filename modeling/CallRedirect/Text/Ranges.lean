/-! # Ranges of characters

A sort of characters is given by the ranges of its code points.
-/

namespace CallRedirect.Text
set_option autoImplicit false

/-- A character lies in one of some ranges, each given by its first and its last code point. -/
def inRanges (ranges : List (Nat × Nat)) (c : Char) : Bool :=
  ranges.any fun (first, last) => first ≤ c.toNat && c.toNat ≤ last

end CallRedirect.Text

/-! Ranges of code points and membership in a list of them.
-/

namespace AddonPackager.Unicode

/-- The code points from `first` to `last`, both included. -/
structure Range where
  first : Nat
  last : Nat

/-- Whether a code point lies in one of the ranges. -/
def inRanges (ranges : List Range) (code : Nat) : Bool :=
  ranges.any fun range => range.first ≤ code && code ≤ range.last

end AddonPackager.Unicode

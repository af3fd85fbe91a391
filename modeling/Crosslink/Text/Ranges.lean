set_option autoImplicit false

namespace Crosslink.Text

/-- Whether `n` lies in one of the ascending ranges `(first, last)`. The search ends at the first
    range that starts above `n`. -/
def inRanges : List (Nat × Nat) → Nat → Bool
  | [], _ => false
  | (first, last) :: ranges, n =>
    if n < first then false else if n ≤ last then true else inRanges ranges n

end Crosslink.Text

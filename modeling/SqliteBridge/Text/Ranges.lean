/-! Sets of code points given by inclusive ranges in ascending order. -/
namespace SqliteBridge.Text

/-- Membership; the search stops at the first range above the code point. -/
def inRanges : List (Nat × Nat) → Nat → Bool
  | [], _ => false
  | (low, high) :: rest, code =>
    if code < low then false else if code ≤ high then true else inRanges rest code

end SqliteBridge.Text

/-! Tables of code points. A property of characters is kept as ascending closed ranges and looked
up from the left. -/
namespace MalLint.Text

/-- Whether `n` lies in one of the closed ranges. The ranges ascend, so the search stops at the
first one that starts beyond `n`. -/
def inRanges (n : Nat) : List (Nat × Nat) → Bool
  | [] => false
  | (low, high) :: rest => if n < low then false else if n ≤ high then true else inRanges n rest

end MalLint.Text

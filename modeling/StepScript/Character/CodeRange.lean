/-!
# Code ranges: properties of characters as tables of code points

**What a table is.** A property of characters is a list of closed ranges of code points, ascending
and apart. A character has the property when its code point lies in one of the ranges. The tables
beside this module (`Blank`, `DecimalDigit`, `Alphabetic`, `Cased`, `Lowercase`) all follow
Unicode 17.0.

**Why ranges.** The largest table holds some 147,000 characters in 761 ranges, so ranges keep the
data readable, and a lookup is one pass that never leaves the natural numbers.
-/

namespace StepScript

/-- Whether `code` lies in one of the closed ranges. -/
def inRanges (ranges : List (Nat × Nat)) (code : Nat) : Bool :=
  ranges.any fun r => r.1 ≤ code && code ≤ r.2

/-- A code point is in the ranges exactly when one of them holds it between its ends. -/
theorem inRanges_iff {ranges : List (Nat × Nat)} {code : Nat} :
    inRanges ranges code = true ↔ ∃ r ∈ ranges, r.1 ≤ code ∧ code ≤ r.2 := by
  simp [inRanges]

end StepScript

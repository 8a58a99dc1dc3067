/-!
# Character ranges

A character class of the Unicode standard is given as a list of closed ranges of
code points; `inRanges` decides membership. The tables in the neighbouring modules
are of this form.
-/

namespace Diagnostics.Text

/-- The code point `n` lies in one of the closed ranges. -/
def inRanges (ranges : List (Nat × Nat)) (n : Nat) : Bool :=
  ranges.any fun r => r.1 ≤ n && n ≤ r.2

theorem inRanges_iff {ranges : List (Nat × Nat)} {n : Nat} :
  inRanges ranges n = true ↔ ∃ r ∈ ranges, r.1 ≤ n ∧ n ≤ r.2
  := by
  simp [inRanges]

end Diagnostics.Text

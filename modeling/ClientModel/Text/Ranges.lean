/-
This file says when a code lies in one of some ranges, the form in which the classes of characters
are listed.
-/

namespace ClientModel.Text

/-- Whether a code lies in one of some ranges. -/
def isInRanges (ranges : Array (Nat × Nat)) (code : Nat) : Bool :=
  ranges.any fun range => range.1 ≤ code && code ≤ range.2

/-- A code lies in some ranges exactly if it lies between the ends of one of them. -/
theorem isInRanges_iff {ranges : Array (Nat × Nat)} {code : Nat} :
    isInRanges ranges code = true ↔ ∃ range ∈ ranges, range.1 ≤ code ∧ code ≤ range.2 := by
  rw [isInRanges, Array.any_eq_true']
  simp only [Bool.and_eq_true, decide_eq_true_eq]

end ClientModel.Text

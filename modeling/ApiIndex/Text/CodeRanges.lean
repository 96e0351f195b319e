namespace ApiIndex.Text

/-!
# Ranges of code points

A character class is a list of closed code point intervals in ascending order.
The search stops at the first interval that does not lie wholly below the
code point, so the classes of ASCII text are decided by the first few entries.
-/

/-- Membership in an ascending list of closed intervals of code points. -/
def inRanges :
    List (Nat × Nat) →
      Nat →
      Bool
  | [], _ =>
      false
  | (first, last) :: rest, code =>
      if code ≤ last then
        decide (first ≤ code)
      else
        inRanges rest code

/-- Nothing lies in an empty list of intervals. -/
@[simp] theorem inRanges_nil
    (code : Nat) :
    inRanges [] code = false :=
  rfl

/-- A code point found in a list of intervals lies in one of them. -/
theorem exists_mem_of_inRanges
    {ranges : List (Nat × Nat)}
    {code : Nat}
    (found : inRanges ranges code = true) :
    ∃ range ∈ ranges, range.1 ≤ code ∧ code ≤ range.2 := by
  induction ranges with
  | nil =>
      simp at found
  | cons range rest inductionHypothesis =>
      unfold inRanges at found
      by_cases below : code ≤ range.2
      · simp only [below, ↓reduceIte, decide_eq_true_eq] at found
        exact ⟨range, by simp, found, below⟩
      · simp only [below, ↓reduceIte] at found
        obtain ⟨other, member, bounds⟩ :=
          inductionHypothesis found
        exact ⟨other, by simp [member], bounds⟩

end ApiIndex.Text

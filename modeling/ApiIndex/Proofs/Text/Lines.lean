import ApiIndex.Text.Lines

namespace ApiIndex.Text

/-!
# Lines of composed texts

A text that is empty or ends with a line feed consists of complete lines.  What
stands behind such a text starts a line of its own, so the lines of the whole
are the lines of the two parts.
-/

/-- A text is empty or ends with a line feed. -/
def EndsLine
    (text : List Char) :
    Prop :=
  ∀ last, text.getLast? = some last → last = '\n'

theorem all_getLast?_eq_iff_endsLine
    (text : List Char) :
    text.getLast?.all (· == '\n') = true ↔ EndsLine text := by
  unfold EndsLine
  cases text.getLast? <;> simp

instance
    (text : List Char) :
    Decidable (EndsLine text) :=
  decidable_of_decidable_of_iff (all_getLast?_eq_iff_endsLine text)

section Complete

variable {text more line : List Char}

theorem EndsLine.nil :
    EndsLine [] := by
  simp [EndsLine]

/-- What stands behind the first character ends the line that the text ends. -/
theorem EndsLine.of_cons
    {character : Char}
    (ends : EndsLine (character :: text)) :
    EndsLine text := by
  intro last isLast
  apply ends
  rw [List.getLast?_cons, isLast]
  rfl

/-- Complete lines behind complete lines are complete lines. -/
theorem EndsLine.append
    (ends : EndsLine text)
    (moreEnds : EndsLine more) :
    EndsLine (text ++ more) := by
  intro last isLast
  rw [List.getLast?_append, Option.or_eq_some_iff] at isLast
  rcases isLast with inMore | ⟨-, inText⟩
  · exact moreEnds last inMore
  · exact ends last inText

/-- A text without lines is empty. -/
theorem lines_eq_nil_iff :
    lines text = [] ↔ text = [] := by
  fun_cases lines text <;> simp_all

/-- A character that ends no line goes before the first line behind it. -/
theorem lines_cons
    {character : Char}
    (notFeed : character ≠ '\n')
    (notReturn : character = '\r' → text.head? ≠ some '\n') :
    lines (character :: text) =
      (character :: (lines text).headD []) :: (lines text).tail := by
  have unfolded := lines.eq_4 character text notFeed (by
    rintro rest isReturn rfl
    exact notReturn isReturn rfl)
  rw [unfolded]
  cases lines text <;> rfl

/-- No line has a line feed in it. -/
theorem newline_not_mem
    (member : line ∈ lines text) :
    '\n' ∉ line := by
  fun_induction lines text generalizing line with
  | case1 =>
      simp at member
  | case2 rest inductionHypothesis =>
      rcases List.mem_cons.mp member with rfl | isLater
      · simp
      · exact inductionHypothesis isLater
  | case3 rest inductionHypothesis =>
      rcases List.mem_cons.mp member with rfl | isLater
      · simp
      · exact inductionHypothesis isLater
  | case4 character rest notFeed notReturn noLine inductionHypothesis =>
      rw [List.mem_singleton] at member
      simpa [member] using Ne.symm notFeed
  | case5 character rest notFeed notReturn first others rest_lines
      inductionHypothesis =>
      rw [rest_lines] at inductionHypothesis
      rcases List.mem_cons.mp member with rfl | isLater
      · have inFirst := inductionHypothesis List.mem_cons_self
        simpa [inFirst] using Ne.symm notFeed
      · exact inductionHypothesis (List.mem_cons_of_mem first isLater)

/-- The lines behind complete lines are read by themselves. -/
theorem lines_append
    (ends : EndsLine text)
    (more : List Char) :
    lines (text ++ more) = lines text ++ lines more := by
  fun_induction lines text with
  | case1 =>
      rfl
  | case2 rest inductionHypothesis =>
      simp [lines, inductionHypothesis ends.of_cons]
  | case3 rest inductionHypothesis =>
      simp [lines, inductionHypothesis ends.of_cons.of_cons]
  | case4 character rest notFeed notReturn noLine inductionHypothesis =>
      -- A last character that is no line feed would leave its line open.
      rw [lines_eq_nil_iff.mp noLine] at ends
      exact absurd (ends character rfl) notFeed
  | case5 character rest notFeed notReturn first others rest_lines
      inductionHypothesis =>
      obtain ⟨next, rest, rfl⟩ : ∃ next tail, rest = next :: tail := by
        cases rest with
        | nil =>
            simp [lines] at rest_lines
        | cons next tail =>
            exact ⟨next, tail, rfl⟩
      have appended := inductionHypothesis ends.of_cons
      rw [rest_lines] at appended
      have notPair :
          character = '\r' → (next :: rest ++ more).head? ≠ some '\n' := by
        intro isReturn isFeed
        have next_eq : next = '\n' := by
          simpa using isFeed
        exact notReturn rest isReturn (by rw [next_eq])
      rw [List.cons_append, lines_cons notFeed notPair, appended]
      rfl

end Complete

end ApiIndex.Text

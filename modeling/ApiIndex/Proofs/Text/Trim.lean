import ApiIndex.Text.Blank
import ApiIndex.Text.Numeric
import Mathlib.Data.List.TakeWhile

namespace ApiIndex.Text

/-!
# Trimmed texts

A text is trimmed if it neither starts nor ends with a blank character.
Trimming leaves such a text alone and makes every text one.  Texts are put
together from trimmed parts, so that a text is seen to be trimmed from the way
it is written, without reading it from both ends.
-/

/-- Neither the first nor the last character is blank. -/
structure Trimmed
    (text : List Char) : Prop where
  start : ∀ character ∈ text.head?, isBlank character = false
  stop : ∀ character ∈ text.getLast?, isBlank character = false

namespace Trimmed

variable {text left right : List Char}

theorem nil :
    Trimmed [] :=
  ⟨by simp, by simp⟩

/-- A text without any blank character is trimmed. -/
theorem of_visible
    (visible : ∀ character ∈ text, isBlank character = false) :
    Trimmed text where
  start := fun character isFirst =>
    visible character (List.mem_of_head? isFirst)
  stop := fun character isLast =>
    visible character (List.mem_of_getLast? isLast)

/-- A text that is searched for a blank character in vain is trimmed. -/
theorem of_any_eq_false
    (searched : text.any isBlank = false) :
    Trimmed text :=
  .of_visible (by simpa using searched)

/-- Trimmed texts behind each other are trimmed. -/
theorem append
    (leftTrimmed : Trimmed left)
    (rightTrimmed : Trimmed right) :
    Trimmed (left ++ right) where
  start := by
    intro character isFirst
    rw [List.head?_append, Option.mem_def, Option.or_eq_some_iff] at isFirst
    rcases isFirst with inLeft | ⟨-, inRight⟩
    · exact leftTrimmed.start character inLeft
    · exact rightTrimmed.start character inRight
  stop := by
    intro character isLast
    rw [List.getLast?_append, Option.mem_def, Option.or_eq_some_iff] at isLast
    rcases isLast with inRight | ⟨-, inLeft⟩
    · exact rightTrimmed.stop character inRight
    · exact leftTrimmed.stop character inLeft

theorem flatten
    {parts : List (List Char)}
    (areTrimmed : ∀ part ∈ parts, Trimmed part) :
    Trimmed parts.flatten := by
  induction parts with
  | nil =>
      exact nil
  | cons part parts inductionHypothesis =>
      rw [List.forall_mem_cons] at areTrimmed
      exact areTrimmed.1.append (inductionHypothesis areTrimmed.2)

/-- Trimmed parts with a trimmed separator between them are trimmed. -/
theorem intercalate
    {separator : List Char}
    {parts : List (List Char)}
    (separates : Trimmed separator)
    (areTrimmed : ∀ part ∈ parts, Trimmed part) :
    Trimmed (separator.intercalate parts) := by
  induction parts with
  | nil =>
      exact nil
  | cons part parts inductionHypothesis =>
      rw [List.forall_mem_cons] at areTrimmed
      cases parts with
      | nil =>
          simpa using areTrimmed.1
      | cons next parts =>
          rw [List.intercalate_cons_cons]
          exact (areTrimmed.1.append separates).append
            (inductionHypothesis areTrimmed.2)

/-- Between two visible characters anything may stand. -/
theorem wrap
    {first last : Char}
    (firstVisible : isBlank first = false)
    (interior : List Char)
    (lastVisible : isBlank last = false) :
    Trimmed (first :: interior ++ [last]) where
  start := by
    simpa using firstVisible
  stop := by
    rw [List.getLast?_concat]
    simpa using lastVisible

/-- A trimmed text is what trimming leaves of it and the blanks around it. -/
theorem trim_around
    {before after : List Char}
    (trimmed : Trimmed text)
    (beforeBlank : ∀ character ∈ before, isBlank character = true)
    (afterBlank : ∀ character ∈ after, isBlank character = true) :
    trim (before ++ text ++ after) = text := by
  have unchanged
      {text : List Char}
      (start : ∀ character ∈ text.head?, isBlank character = false) :
      text.dropWhile isBlank = text := by
    cases text with
    | nil =>
        rfl
    | cons character rest =>
        exact List.dropWhile_cons_of_neg (by simp [start character rfl])
  have fromEnd : trimEnd (text ++ after) = text := by
    have reversedBlank :
        ∀ character ∈ after.reverse, isBlank character = true :=
      fun character member => afterBlank character (by simpa using member)
    rw [trimEnd, List.reverse_append,
      List.dropWhile_append_of_pos reversedBlank, unchanged,
      List.reverse_reverse]
    rw [List.head?_reverse]
    exact trimmed.stop
  rw [trim, trimStart, List.append_assoc,
    List.dropWhile_append_of_pos beforeBlank]
  cases text with
  | nil =>
      have allBlank : after.dropWhile isBlank = [] := by
        simpa using afterBlank
      simp [allBlank, trimEnd]
  | cons character rest =>
      rw [unchanged, fromEnd]
      simpa using trimmed.start

/-- A trimmed text is left alone by trimming. -/
theorem trim_eq
    (trimmed : Trimmed text) :
    trim text = text := by
  have around := @trim_around text [] [] trimmed (by simp) (by simp)
  simpa using around

end Trimmed

/-- What trimming removes at the end is blank. -/
theorem exists_trimEnd_append
    (text : List Char) :
    ∃ after,
      text = trimEnd text ++ after ∧
        ∀ character ∈ after, isBlank character = true := by
  refine ⟨(text.reverse.takeWhile isBlank).reverse, ?_, ?_⟩
  · rw [trimEnd, ← List.reverse_append, List.takeWhile_append_dropWhile,
      List.reverse_reverse]
  · intro character member
    exact List.mem_takeWhile_imp (List.mem_reverse.mp member)

/-- Around what trimming leaves there are only blank characters. -/
theorem exists_blank_around_trim
    (text : List Char) :
    ∃ before after,
      text = before ++ trim text ++ after ∧
        (∀ character ∈ before, isBlank character = true) ∧
        ∀ character ∈ after, isBlank character = true := by
  obtain ⟨after, shape, afterBlank⟩ :=
    exists_trimEnd_append (text.dropWhile isBlank)
  refine ⟨text.takeWhile isBlank, after, ?_, ?_, afterBlank⟩
  · rw [List.append_assoc, trim, trimStart, ← shape,
      List.takeWhile_append_dropWhile]
  · intro character member
    exact List.mem_takeWhile_imp member

/-- Trimming makes a text trimmed. -/
theorem trimmed_trim
    (text : List Char) :
    Trimmed (trim text) where
  start := by
    intro character isFirst
    obtain ⟨after, shape, -⟩ :=
      exists_trimEnd_append (text.dropWhile isBlank)
    have isStart :
        character ∈ (text.dropWhile isBlank).head? := by
      rw [shape, List.head?_append]
      exact Option.or_eq_some_iff.mpr (.inl isFirst)
    have stopped := List.head?_dropWhile_not isBlank text
    rw [Option.mem_def] at isStart
    simpa [isStart] using stopped
  stop := by
    intro character isLast
    rw [trim, trimEnd, List.getLast?_reverse] at isLast
    have stopped :=
      List.head?_dropWhile_not isBlank (trimStart text).reverse
    rw [Option.mem_def] at isLast
    simpa [isLast] using stopped

section Classes

/-- All code points of a list of intervals. -/
def codePoints
    (ranges : List (Nat × Nat)) :
    List Nat :=
  ranges.flatMap fun range => List.range' range.1 (range.2 + 1 - range.1)

theorem mem_codePoints_of_inRanges
    {ranges : List (Nat × Nat)}
    {code : Nat}
    (found : inRanges ranges code = true) :
    code ∈ codePoints ranges := by
  obtain ⟨range, member, lower, upper⟩ := exists_mem_of_inRanges found
  rw [codePoints, List.mem_flatMap]
  exact ⟨range, member, List.mem_range'_1.mpr (by omega)⟩

/-- No blank character may stand in an identifier. -/
theorem isBlank_of_isIdentifier
    {character : Char}
    (identifies : isIdentifier character = true) :
    isBlank character = false := by
  have neither :
      ∀ code ∈ codePoints blankRanges,
        inRanges alphabeticRanges code = false ∧
          inRanges numericRanges code = false := by
    decide +kernel
  apply Bool.eq_false_iff.mpr
  intro blank
  obtain ⟨notAlphabetic, notNumeric⟩ :=
    neither _ (mem_codePoints_of_inRanges blank)
  have isUnderscore : character = '_' := by
    simpa [isIdentifier, isAlphabetic, isNumeric, notAlphabetic,
      notNumeric] using identifies
  subst character
  exact absurd blank (by decide)

/-- No digit is blank. -/
theorem isBlank_of_isAsciiDigit
    {character : Char}
    (digit : isAsciiDigit character = true) :
    isBlank character = false := by
  have outside :
      ∀ code ∈ codePoints blankRanges, code < 48 ∨ 57 < code := by
    decide
  simp only [isAsciiDigit, Bool.and_eq_true, decide_eq_true_eq] at digit
  apply Bool.eq_false_iff.mpr
  intro blank
  have lower : 48 ≤ character.toNat := digit.1
  have upper : character.toNat ≤ 57 := digit.2
  have between := outside _ (mem_codePoints_of_inRanges blank)
  omega

end Classes

end ApiIndex.Text

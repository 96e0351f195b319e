import ApiIndex.Text.Span

namespace ApiIndex.Text

/-!
# Cutting a text between two characters

Every division of a text into two parts has a byte offset, the size of the
first part.  Cutting there gives back the two parts, and different divisions
have different offsets.  Positions of a text can therefore be named by the part
before them, which is how the proofs about brackets and signatures speak of
offsets.
-/

/-- Every character takes at least one byte, so only the empty text has no
size. -/
@[simp] theorem byteSize_eq_zero
    {text : List Char} :
    byteSize text = 0 ↔ text = [] := by
  cases text with
  | nil =>
      simp
  | cons character rest =>
      have positive := character.utf8Size_pos
      simp only [byteSize_cons, reduceCtorEq, iff_false]
      omega

/-- A text has at least as many bytes as characters. -/
theorem length_le_byteSize
    (text : List Char) :
    text.length ≤ byteSize text := by
  induction text with
  | nil =>
      exact Nat.le_refl 0
  | cons character rest inductionHypothesis =>
      have positive := character.utf8Size_pos
      rw [byteSize_cons, List.length_cons]
      omega

/-- A text of characters of one byte has as many bytes as characters. -/
theorem byteSize_eq_length
    {text : List Char}
    (oneByte : ∀ character ∈ text, character.utf8Size = 1) :
    byteSize text = text.length := by
  induction text with
  | nil =>
      rfl
  | cons character rest inductionHypothesis =>
      rw [List.forall_mem_cons] at oneByte
      rw [byteSize_cons, oneByte.1, inductionHypothesis oneByte.2,
        List.length_cons, Nat.add_comm]

/-- What stands behind a character starts one character size further on. -/
private theorem dropBytes_utf8Size_add
    (count : Nat)
    (character : Char)
    (rest : List Char) :
    dropBytes (character.utf8Size + count) (character :: rest) =
      dropBytes count rest := by
  have positive := character.utf8Size_pos
  obtain ⟨less, sizeShape⟩ :=
    Nat.exists_eq_add_one_of_ne_zero
      (Nat.pos_iff_ne_zero.mp positive)
  have shape :
      character.utf8Size + count = (less + count) + 1 := by
    omega
  rw [shape, dropBytes]
  congr 1
  omega

/-- A character and what follows it are taken together. -/
private theorem takeBytes_utf8Size_add
    (count : Nat)
    (character : Char)
    (rest : List Char) :
    takeBytes (character.utf8Size + count) (character :: rest) =
      character :: takeBytes count rest := by
  have positive := character.utf8Size_pos
  obtain ⟨less, sizeShape⟩ :=
    Nat.exists_eq_add_one_of_ne_zero
      (Nat.pos_iff_ne_zero.mp positive)
  have shape :
      character.utf8Size + count = (less + count) + 1 := by
    omega
  rw [shape, takeBytes]
  congr 2
  omega

/-- Cutting at the size of the first part leaves the second. -/
@[simp] theorem dropBytes_byteSize_append
    (front back : List Char) :
    dropBytes (byteSize front) (front ++ back) = back := by
  induction front with
  | nil =>
      simp
  | cons character rest inductionHypothesis =>
      simp only [byteSize_cons, List.cons_append,
        dropBytes_utf8Size_add, inductionHypothesis]

/-- Cutting at the size of the first part takes the first. -/
@[simp] theorem takeBytes_byteSize_append
    (front back : List Char) :
    takeBytes (byteSize front) (front ++ back) = front := by
  induction front with
  | nil =>
      simp
  | cons character rest inductionHypothesis =>
      simp only [byteSize_cons, List.cons_append,
        takeBytes_utf8Size_add, inductionHypothesis]

/-- What is taken from the front of a text before its first part ends is a part
of it from its start on. -/
theorem takeBytes_within_front
    {count : Nat}
    {front : List Char}
    (within : count ≤ byteSize front)
    (back : List Char) :
    takeBytes count (front ++ back) <+: front := by
  induction front generalizing count with
  | nil =>
      obtain rfl : count = 0 := by simpa using within
      simp
  | cons character rest inductionHypothesis =>
      cases count with
      | zero =>
          simp
      | succ count =>
          rw [byteSize_cons] at within
          rw [List.cons_append, takeBytes, List.cons_prefix_cons]
          exact ⟨rfl, inductionHypothesis (by omega)⟩

/-- The span between two parts of a text covers exactly what lies between
them. -/
theorem slice_append
    (front middle back : List Char) :
    slice (front ++ middle ++ back)
        ⟨byteSize front, byteSize (front ++ middle)⟩ =
      middle := by
  have size :
      byteSize (front ++ middle) - byteSize front =
        byteSize middle := by
    simp
  simp only [slice, size, List.append_assoc,
    dropBytes_byteSize_append, takeBytes_byteSize_append]

/-- Of two divisions of a text, the one at the smaller offset has the shorter
first part. -/
theorem exists_eq_append_of_byteSize_le
    {front back otherFront otherBack : List Char}
    (same : front ++ back = otherFront ++ otherBack)
    (ordered : byteSize front ≤ byteSize otherFront) :
    ∃ between, otherFront = front ++ between ∧
      back = between ++ otherBack := by
  rcases List.append_eq_append_iff.mp same with
      ⟨between, frontShape, backShape⟩ |
      ⟨between, frontShape, backShape⟩
  · exact ⟨between, frontShape, backShape⟩
  · have noBytes : byteSize between = 0 := by
      rw [frontShape, byteSize_append] at ordered
      omega
    rw [byteSize_eq_zero] at noBytes
    subst between
    exact ⟨[], by simpa using frontShape.symm,
      by simpa using backShape.symm⟩

/-- An offset falls between two characters of a text, or on one of its
ends. -/
def IsBoundary
    (text : List Char)
    (offset : Nat) :
    Prop :=
  ∃ front back,
    text = front ++ back ∧ byteSize front = offset

/-- A character of a text starts at an offset. -/
def StandsAt
    (text : List Char)
    (offset : Nat)
    (character : Char) :
    Prop :=
  ∃ front back,
    text = front ++ character :: back ∧ byteSize front = offset

/-- A text goes on at an offset, right behind a character. -/
def GoesOnBehind
    (text : List Char)
    (offset : Nat)
    (character : Char) :
    Prop :=
  ∃ front back,
    text = front ++ character :: back ∧ back ≠ [] ∧
      byteSize (front ++ [character]) = offset

/-- A span covers a part of a text. -/
def Covers
    (text : List Char)
    (span : Span)
    (part : List Char) :
    Prop :=
  ∃ front back,
    text = front ++ part ++ back ∧
      span = ⟨byteSize front, byteSize (front ++ part)⟩

section Offsets

variable {text : List Char} {offset : Nat} {character : Char}

theorem IsBoundary.le_byteSize
    (boundary : IsBoundary text offset) :
    offset ≤ byteSize text := by
  obtain ⟨front, back, rfl, rfl⟩ := boundary
  simp

theorem StandsAt.isBoundary
    (stands : StandsAt text offset character) :
    IsBoundary text offset := by
  obtain ⟨front, back, shape, size⟩ := stands
  exact ⟨front, character :: back, shape, size⟩

/-- Only one character starts at an offset. -/
theorem StandsAt.unique
    {other : Char}
    (stands : StandsAt text offset character)
    (otherStands : StandsAt text offset other) :
    character = other := by
  obtain ⟨front, back, rfl, size⟩ := stands
  obtain ⟨otherFront, otherBack, shape, otherSize⟩ := otherStands
  have behind := dropBytes_byteSize_append front (character :: back)
  have otherBehind :=
    dropBytes_byteSize_append otherFront (other :: otherBack)
  rw [← shape, otherSize, ← size, behind] at otherBehind
  exact (List.cons.inj otherBehind).1

theorem GoesOnBehind.isBoundary
    (goesOn : GoesOnBehind text offset character) :
    IsBoundary text offset := by
  obtain ⟨front, back, shape, -, size⟩ := goesOn
  exact ⟨front ++ [character], back, by simpa using shape, size⟩

section Parts

variable {span : Span} {part : List Char}

/-- Cutting at a span gives the part that it covers. -/
theorem Covers.slice_eq
    (covers : Covers text span part) :
    slice text span = part := by
  obtain ⟨front, back, rfl, rfl⟩ := covers
  exact slice_append front part back

/-- A span that covers some part covers what it cuts out. -/
theorem Covers.of_slice
    (covers : Covers text span part) :
    Covers text span (slice text span) :=
  covers.slice_eq.symm ▸ covers

/-- A span that covers a part of a text lies inside the text and starts and ends
between two of its characters. -/
theorem Covers.between
    (covers : Covers text span part) :
    span.start ≤ span.stop ∧
      span.stop ≤ byteSize text ∧
      IsBoundary text span.start ∧
      IsBoundary text span.stop := by
  obtain ⟨front, back, rfl, rfl⟩ := covers
  refine ⟨by simp, by simp, ?_, ?_⟩
  · exact ⟨front, part ++ back, by simp, rfl⟩
  · exact ⟨front ++ part, back, rfl, rfl⟩

end Parts

end Offsets

end ApiIndex.Text

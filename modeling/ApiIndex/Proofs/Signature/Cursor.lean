import Mathlib.Logic.Relation
import ApiIndex.Proofs.Bracket.Group
import ApiIndex.Proofs.Signature.Acceptance

namespace ApiIndex.Signature

open ApiIndex.Text
open ApiIndex.Bracket

/-!
# Where the reading of suffixes comes by

The segments of a scanned text are cut at top level, and reading the suffixes of
a segment moves a cursor from group to group.  Each step reads a suffix that
closes all it opens, so the cursor stands at top level wherever it comes by,
whether or not the reading succeeds in the end.  An opener at the cursor
therefore has its closer inside the segment.
-/

/-- The spans of the segments of a name that ends at `stop`, the member
last. -/
def segmentSpans
    (scanned : Scan)
    (stop : Nat) :
    List Span :=
  (divideName scanned stop).1.elim [] (scanned.splitTop '.') ++
    [(divideName scanned stop).2]

/-- Where the suffixes of a segment start. -/
def suffixStart
    (scanned : Scan)
    (span : Span) :
    Cursor :=
  let segment := slice scanned.text span
  ⟨{}, span.start + byteSize (segment.takeWhile isIdentifier),
    segment.dropWhile isIdentifier⟩

/-- The suffix at one cursor is read, and the other one stands behind it. -/
def Advances
    (scanned : Scan)
    (position : Position)
    (stop : Nat)
    (cursor next : Cursor) :
    Prop :=
  ∃ character inside,
    cursor.rest = character :: inside ∧
      readSuffix scanned position stop cursor character inside = .ok next

/-- Reading suffixes from one cursor on comes by the other one. -/
def Passes
    (scanned : Scan)
    (position : Position)
    (stop : Nat) :
    Cursor →
      Cursor →
      Prop :=
  Relation.ReflTransGen (Advances scanned position stop)

/-- A span covers a segment of a text: nothing is open at its two ends, and it
ends with the text, at a dot or at a parenthesis. -/
structure SegmentSpan
    (text : List Char)
    (span : Span) : Prop where
  covers : ∃ segment, Stands text span segment ∧ Level segment
  ends :
    span.stop = byteSize text ∨
      StandsAt text span.stop '.' ∨ StandsAt text span.stop '('

/-- A cursor stands at top level of a text, between `front` and the rest of a
segment that ends at `stop`.  Behind an indexer stands its closer. -/
structure Cursor.AtTop
    (text : List Char)
    (stop : Nat)
    (cursor : Cursor)
    (front back : List Char) : Prop where
  placed : text = front ++ cursor.rest ++ back
  frontLevel : Level front
  restLevel : Level cursor.rest
  offset : cursor.offset = byteSize front
  stops : stop = byteSize (front ++ cursor.rest)
  indexer :
    cursor.seen.indexer = true → ∃ before, front = before ++ [']']

/-- Why the suffix at a cursor at top level is rejected. -/
inductive SuffixFailure
    (text : List Char)
    (cursor : Cursor)
    (character : Char)
    (inside : List Char) :
    Failure → Prop where
  | afterIndexer
      (seen : cursor.seen.indexer = true) :
      SuffixFailure text cursor character inside
        (.afterIndexer cursor.offset)
  /-- The character starts no suffix. -/
  | character :
      SuffixFailure text cursor character inside
        (.disallowedCharacter character cursor.offset)
  | malformedArity
      (tick : character = '\x60') :
      SuffixFailure text cursor character inside
        (.malformedArity cursor.offset)
  | repeatedArity
      (tick : character = '\x60') :
      SuffixFailure text cursor character inside
        (.repeatedArity cursor.offset)
  | arityOrder
      (tick : character = '\x60') :
      SuffixFailure text cursor character inside
        (.arityOrder cursor.offset)
  | methodArity
      (tick : character = '\x60') :
      SuffixFailure text cursor character inside
        (.methodArityNotAllowed cursor.offset)
  | repeatedGroup
      {family : Family}
      (opens : character = family.opener)
      (generic : family = .angle ∨ family = .brace) :
      SuffixFailure text cursor character inside
        (.repeatedGroup family cursor.offset)
  | indexer
      (opens : character = '[') :
      SuffixFailure text cursor character inside
        (.indexerNotAllowed cursor.offset)
  /-- The interior of the group that the character opens is no interior. -/
  | interior
      {family : Family}
      {interior later : List Char}
      {failure : Failure}
      (opens : character = family.opener)
      (notParen : family ≠ .paren)
      (divided : inside = interior ++ family.closer :: later)
      (group : TopGroup text family interior)
      (rejected :
        checkGroup (cursor.offset + 1) interior = .error failure) :
      SuffixFailure text cursor character inside failure

section Reading

variable
  {scanned : Scan}
  {position : Position}
  {stop : Nat}
  {cursor : Cursor}
  {failure : Failure}

/-- An arity is rejected where its backticks start. -/
private theorem suffixFailure_of_readArity
    {text inside : List Char}
    (failed : readArity position cursor = .error failure) :
    SuffixFailure text cursor '\x60' inside failure := by
  simp only [readArity] at failed
  split at failed
  · cases failed
    exact .malformedArity rfl
  · split at failed
    · split at failed
      · cases failed
        exact .arityOrder rfl
      · split at failed
        · cases failed
          exact .repeatedArity rfl
        · contradiction
    · split at failed
      · cases failed
        exact .methodArity rfl
      · split at failed
        · cases failed
          exact .repeatedArity rfl
        · contradiction

/-- A group whose interior has been checked is rejected where it starts. -/
private theorem suffixFailure_of_noteGroup
    {text inside : List Char}
    {family : Family}
    {seen : Suffixes}
    (notParen : family ≠ .paren)
    (failed :
      noteGroup position family cursor.offset seen = .error failure) :
    SuffixFailure text cursor family.opener inside failure := by
  rw [noteGroup] at failed
  split at failed
  · next isSquare =>
      subst family
      split at failed
      · contradiction
      · cases failed
        exact .indexer rfl
  · next notSquare =>
      split at failed
      · cases failed
        refine .repeatedGroup rfl ?_
        cases family with
        | angle =>
            exact .inl rfl
        | brace =>
            exact .inr rfl
        | square =>
            exact absurd rfl notSquare
        | paren =>
            exact absurd rfl notParen
      · contradiction

/-- Reading suffixes fails at a cursor that it comes by. -/
theorem exists_passes_of_readSuffixes
    (failed : readSuffixes scanned position stop cursor = .error failure) :
    ∃ last character inside,
      Passes scanned position stop cursor last ∧
        last.rest = character :: inside ∧
        readSuffix scanned position stop last character inside =
          .error failure := by
  induction size : cursor.rest.length using Nat.strongRecOn
    generalizing cursor with
  | ind length inductionHypothesis =>
      obtain ⟨seen, offset, rest⟩ := cursor
      cases rest with
      | nil =>
          rw [readSuffixes_nil] at failed
          contradiction
      | cons character inside =>
          cases read :
            readSuffix scanned position stop
              ⟨seen, offset, character :: inside⟩ character inside with
          | error other =>
              rw [readSuffixes_of_error read] at failed
              obtain rfl := Except.error.inj failed
              exact ⟨_, character, inside, .refl, rfl, read⟩
          | ok next =>
              rw [readSuffixes_of_ok read] at failed
              have shorter := length_rest_of_readSuffix rfl read
              rw [size] at shorter
              obtain ⟨last, other, later, passes, failedThere⟩ :=
                inductionHypothesis _ shorter failed rfl
              exact ⟨last, other, later,
                passes.head ⟨character, inside, rfl, read⟩, failedThere⟩

/-- A segment is rejected because it is empty, for its first character, or at a
cursor that the reading of its suffixes comes by. -/
theorem cases_of_checkSegment
    {span : Span}
    (failed : checkSegment scanned position span = .error failure) :
    (slice scanned.text span = [] ∧
        failure = .emptySegment span.start) ∨
      (∃ character rest,
        slice scanned.text span = character :: rest ∧
          failure = .disallowedCharacter character span.start) ∨
      ∃ last character inside,
        Passes scanned position span.stop (suffixStart scanned span)
            last ∧
          last.rest = character :: inside ∧
          readSuffix scanned position span.stop last character inside =
            .error failure := by
  rw [checkSegment] at failed
  split at failed
  · next isEmpty =>
      exact .inl ⟨isEmpty, (Except.error.inj failed).symm⟩
  · next character rest isSegment =>
      simp only at failed
      split at failed
      · exact .inr (.inl
          ⟨character, rest, isSegment, (Except.error.inj failed).symm⟩)
      · rw [← isSegment] at failed
        exact .inr (.inr (exists_passes_of_readSuffixes failed))

end Reading

section TopLevel

variable
  {text front back : List Char}
  {position : Position}
  {stop : Nat}
  {cursor next : Cursor}

/-- Reading starts at top level. -/
theorem SegmentSpan.exists_atTop
    {span : Span}
    (isSegment : SegmentSpan text span) :
    ∃ front back,
      (suffixStart (marked text) span).AtTop text span.stop front
        back := by
  obtain ⟨segment, ⟨front, back, rfl, frontLevel, rfl⟩, level⟩ :=
    isSegment.covers
  have cut := slice_append front segment back
  have start :
      Level (segment.takeWhile isIdentifier) :=
    (NamePart.of_identifier fun character member =>
      List.mem_takeWhile_imp member).balanced.level
  have rejoined :
      segment.takeWhile isIdentifier ++ segment.dropWhile isIdentifier =
        segment :=
    List.takeWhile_append_dropWhile
  have rest : Level (segment.dropWhile isIdentifier) := by
    rw [← rejoined] at level
    exact (Level.append_iff start).mp level
  refine ⟨front ++ segment.takeWhile isIdentifier, back, ?_⟩
  simp only [suffixStart, text_marked, cut]
  exact {
    placed := by
      simp [rejoined]
    frontLevel := (Level.append_iff frontLevel).mpr start
    restLevel := rest
    offset := by
      simp
    stops := by
      rw [List.append_assoc, rejoined]
    indexer := by
      simp
  }

/-- Behind the suffix at a cursor the next one stands at top level again. -/
theorem Cursor.AtTop.advance
    (balanced : Balanced text)
    (atTop : cursor.AtTop text stop front back)
    (advances : Advances (marked text) position stop cursor next) :
    ∃ nextFront, next.AtTop text stop nextFront back := by
  obtain ⟨seen, offset, rest⟩ := cursor
  obtain ⟨rfl, frontLevel, restLevel, rfl, rfl, -⟩ := atTop
  obtain ⟨character, inside, rfl, read⟩ := advances
  obtain ⟨suffix, later, step, rfl⟩ :=
    (readSuffix_eq_ok_iff balanced).mp read
  have suffixLevel := step.wellFormed.namePart.balanced.level
  refine ⟨front ++ suffix.text, ?_⟩
  exact {
    placed := by
      simp [step.shape]
    frontLevel := (Level.append_iff frontLevel).mpr suffixLevel
    restLevel := by
      rw [step.shape] at restLevel
      exact (Level.append_iff suffixLevel).mp restLevel
    offset := rfl
    stops := by
      simp [step.shape]
    indexer := by
      intro noted
      have noneBefore := step.admitted.1
      cases suffix with
      | indexer interior =>
          exact ⟨front ++ '[' :: interior, by simp [Suffix.text]⟩
      | _ =>
          simp [Suffixes.note, noneBefore] at noted
  }

/-- Wherever the reading of a segment comes by, it stands at top level. -/
theorem SegmentSpan.exists_atTop_of_passes
    {span : Span}
    (balanced : Balanced text)
    (isSegment : SegmentSpan text span)
    (passes :
      Passes (marked text) position span.stop
        (suffixStart (marked text) span) cursor) :
    ∃ front back, cursor.AtTop text span.stop front back := by
  induction passes with
  | refl =>
      exact isSegment.exists_atTop
  | tail _ advances inductionHypothesis =>
      obtain ⟨front, back, atTop⟩ := inductionHypothesis
      obtain ⟨nextFront, nextAtTop⟩ := atTop.advance balanced advances
      exact ⟨nextFront, back, nextAtTop⟩

/-- An opener at the cursor starts a group that ends inside the segment. -/
theorem Cursor.AtTop.exists_interior
    {family : Family}
    {inside : List Char}
    (balanced : Balanced text)
    (atTop : cursor.AtTop text stop front back)
    (shape : cursor.rest = family.opener :: inside) :
    ∃ interior later,
      inside = interior ++ family.closer :: later ∧
        BalancedIn family interior ∧ TopGroup text family interior := by
  have restBalanced : Balanced cursor.rest := by
    rw [atTop.placed, List.append_assoc] at balanced
    have behind := (balanced.split atTop.frontLevel).2
    exact (behind.split atTop.restLevel).1
  rw [shape] at restBalanced
  obtain ⟨interior, later, rfl, interiorBalanced⟩ :=
    @Balanced.exists_interior [] inside family restBalanced
  refine ⟨interior, later, rfl, interiorBalanced, front, later ++ back,
    ?_, atTop.frontLevel, interiorBalanced⟩
  rw [atTop.placed, shape]
  simp

/-- A group at the cursor is rejected for its interior or where it starts, and
never because its closer is missing. -/
private theorem Cursor.AtTop.suffixFailure_of_readGroup
    {family : Family}
    {inside : List Char}
    {failure : Failure}
    (balanced : Balanced text)
    (atTop : cursor.AtTop text stop front back)
    (shape : cursor.rest = family.opener :: inside)
    (notParen : family ≠ .paren)
    (failed :
      readGroup (marked text) position stop family cursor inside =
        .error failure) :
    SuffixFailure text cursor family.opener inside failure := by
  obtain ⟨interior, later, divided, interiorBalanced, group⟩ :=
    atTop.exists_interior balanced shape
  obtain ⟨seen, offset, rest⟩ := cursor
  obtain ⟨rfl, frontLevel, -, rfl, rfl, -⟩ := atTop
  subst shape
  have covered : Covered family front := by
    have whole := (balanced family).covered
    rw [List.append_assoc] at whole
    exact whole.of_append
  rw [readGroup_eq_of_shape covered interiorBalanced divided] at failed
  cases checked : checkGroup (byteSize front + 1) interior with
  | error rejection =>
      rw [checked] at failed
      cases failed
      exact .interior rfl notParen divided group checked
  | ok passed =>
      rw [checked, Except.bind] at failed
      cases noted : noteGroup position family (byteSize front) seen with
      | error rejection =>
          rw [noted] at failed
          cases failed
          exact suffixFailure_of_noteGroup notParen noted
      | ok after =>
          rw [noted] at failed
          contradiction

/-- A suffix at a cursor at top level is rejected for one of the reasons
above. -/
theorem Cursor.AtTop.suffixFailure
    {character : Char}
    {inside : List Char}
    {failure : Failure}
    (balanced : Balanced text)
    (atTop : cursor.AtTop text stop front back)
    (shape : cursor.rest = character :: inside)
    (failed :
      readSuffix (marked text) position stop cursor character inside =
        .error failure) :
    SuffixFailure text cursor character inside failure := by
  rw [readSuffix] at failed
  split at failed
  · next seen =>
      cases failed
      exact .afterIndexer seen
  · split at failed
    · next tick =>
        subst character
        exact suffixFailure_of_readArity failed
    · split at failed
      · cases failed
        exact .character
      · cases failed
        exact .character
      · next family notParen opens =>
          have isOpener := Family.eq_opener_of_ofOpener? opens
          subst character
          exact atTop.suffixFailure_of_readGroup balanced shape notParen
            failed

end TopLevel

section Segments

variable {text : List Char}

/-- Every span of pieces covers one of them. -/
theorem exists_piece_of_mem
    {spans : List Span}
    {pieces : List (List Char)}
    {span : Span}
    (stands : List.Forall₂ (Stands text) spans pieces)
    (member : span ∈ spans) :
    ∃ piece ∈ pieces, Stands text span piece := by
  induction stands with
  | nil =>
      contradiction
  | @cons first piece spans pieces here later inductionHypothesis =>
      rcases List.mem_cons.mp member with rfl | isLater
      · exact ⟨piece, by simp, here⟩
      · obtain ⟨other, isPiece, there⟩ := inductionHypothesis isLater
        exact ⟨other, List.mem_cons_of_mem piece isPiece, there⟩

/-- The pieces between the dots of a qualifier are segments. -/
theorem segmentSpan_of_mem_splitTop
    {before back : List Char}
    {span : Span}
    (shape : text = before ++ '.' :: back)
    (balanced : Balanced text)
    (level : Level before)
    (member :
      span ∈ (marked text).splitTop '.' ⟨0, byteSize before⟩) :
    SegmentSpan text span := by
  subst text
  obtain ⟨pieces, divided⟩ :=
    @Pieces.exists_of_level '.' (by decide) before level
  have covered : ∀ family, Covered family before :=
    fun family => (balanced family).covered.of_append
  have stands :=
    @splitTop_pieces '.' [] before ('.' :: back) pieces (by decide)
      covered .nil divided
  rw [List.nil_append, byteSize_nil] at stands
  have stop :=
    @stop_of_mem_splitTop '.' [] before ('.' :: back) span member
  rw [List.nil_append] at stop
  obtain ⟨piece, isPiece, standsHere⟩ := exists_piece_of_mem stands member
  refine ⟨⟨piece, standsHere, divided.level piece isPiece⟩, .inr (.inl ?_)⟩
  rcases stop with atStop | atDot
  · exact ⟨before, back, rfl, atStop.symm⟩
  · exact atDot

/-- The segments of the name that is left before the argument list are segments
of the text. -/
theorem segmentSpan_of_mem_segmentSpans
    {grammar : Grammar}
    {nameEnd : NameEnd}
    {span : Span}
    (balanced : Balanced text)
    (read : readArguments (marked text) grammar = .ok nameEnd)
    (member : span ∈ segmentSpans (marked text) nameEnd.stop) :
    SegmentSpan text span := by
  obtain ⟨name, interior, shape, level, -, -, -, stop⟩ :=
    (readArguments_eq_ok_iff balanced).mp read
  obtain ⟨last, before, rfl, beforeLevel, noDot⟩ :=
    exists_eq_nameText level
  subst shape
  have divided := divideName_eq balanced beforeLevel noDot
  -- The name ends with the text, or at the parenthesis of the list.
  have nameEnds :
      let text := nameText last before ++ listText interior
      byteSize (nameText last before) = byteSize text ∨
        StandsAt text (byteSize (nameText last before)) '.' ∨
        StandsAt text (byteSize (nameText last before)) '(' := by
    cases interior with
    | none =>
        exact .inl (by simp [listText])
    | some interior =>
        exact .inr (.inr ⟨_, interior ++ [')'], rfl, rfl⟩)
  rw [segmentSpans, stop, divided] at member
  cases before with
  | none =>
      simp only [Option.elim_none, List.nil_append,
        List.mem_singleton] at member
      subst member
      exact ⟨⟨last, ⟨[], listText interior, rfl, .nil, rfl⟩, level⟩,
        nameEnds⟩
  | some before =>
      simp only [Option.elim_some, List.mem_append,
        List.mem_singleton] at member
      have qualified :
          nameText last (some before) ++ listText interior =
            before ++ '.' :: (last ++ listText interior) := by
        simp [nameText]
      rcases member with inQualifier | rfl
      · exact segmentSpan_of_mem_splitTop qualified balanced
          (beforeLevel before rfl) inQualifier
      · have dotLevel : Level (before ++ ['.']) :=
          (Level.append_iff (beforeLevel before rfl)).mpr
            ((Level.cons_iff rfl rfl).mpr .nil)
        have regrouped :
            nameText last (some before) = before ++ ['.'] ++ last := by
          simp [nameText]
        rw [regrouped] at level nameEnds ⊢
        refine ⟨⟨last, ⟨before ++ ['.'], listText interior, rfl,
          dotLevel, by simp⟩, (Level.append_iff dotLevel).mp level⟩, ?_⟩
        simpa using nameEnds

end Segments

end ApiIndex.Signature

import ApiIndex.Proofs.Bracket.Imbalance
import ApiIndex.Proofs.Signature.Cursor

namespace ApiIndex.Signature

open ApiIndex.Text
open ApiIndex.Bracket

/-!
# What the cause of a rejection points at

A cause carries an offset in the trimmed text, the position of an argument or
the name of a member.  What stands at that place is described by the text alone,
with one clause for each cause, and every cause that is given satisfies its
clause.  Two scans read only a part of the text, the interior of an argument
list and that of a group.  Their errors would count from the start of the part;
neither of them can carry an offset.
-/

/-- The offset that a cause carries, if it carries one. -/
def Failure.offset? : Failure → Option Nat
  | .brackets (.unexpectedCloser _ offset)
  | .disallowedCharacter _ offset
  | .emptySegment offset
  | .trailingText offset
  | .malformedArity offset
  | .repeatedArity offset
  | .arityOrder offset
  | .methodArityNotAllowed offset
  | .repeatedGroup _ offset
  | .indexerNotAllowed offset
  | .afterIndexer offset =>
      some offset
  | _ =>
      none

/-- The name before the argument list of a text, divided at its last dot. -/
structure Divides
    (text : List Char)
    (member : List Char)
    (before : Option (List Char)) : Prop where
  list : ∃ interior, text = nameText member before ++ listText interior
  level : Level (nameText member before)
  noParenthesis : NoneTop '(' (nameText member before)
  beforeLevel : ∀ qualifier ∈ before, Level qualifier
  noDot : NoneTop '.' member

/-- The argument list that ends a text, divided at its commas. -/
def ListPieces
    (text : List Char)
    (pieces : List (List Char)) :
    Prop :=
  ∃ name interior,
    text = name ++ listText (some interior) ∧
      Level name ∧ NoneTop '(' name ∧ Pieces ',' interior pieces

/-- What a cause says of the text that is rejected. -/
def Failure.PointsAt
    (text : List Char) :
    Failure → Prop
  | .empty =>
      text = []
  | .brackets (.unexpectedCloser family offset) =>
      StandsAt text offset family.closer ∧
        openers family (takeBytes offset text) =
          closers family (takeBytes offset text)
  | .brackets (.unclosed family count) =>
      count ≠ 0 ∧
        ∃ part,
          (part = text ∨ ∃ outer, TopGroup text outer part) ∧
            openers family part = closers family part + count
  | .disallowedCharacter character offset =>
      StandsAt text offset character
  | .emptySegment offset =>
      offset = byteSize text ∨
        StandsAt text offset '.' ∨ StandsAt text offset '('
  | .argumentsNotAllowed =>
      ¬ NoneTop '(' text
  | .trailingText offset =>
      GoesOnBehind text offset ')'
  | .malformedArity offset
  | .repeatedArity offset
  | .arityOrder offset
  | .methodArityNotAllowed offset =>
      StandsAt text offset '\x60'
  | .repeatedGroup family offset =>
      (family = .angle ∨ family = .brace) ∧
        StandsAt text offset family.opener
  | .indexerNotAllowed offset =>
      StandsAt text offset '['
  | .afterIndexer offset =>
      GoesOnBehind text offset ']'
  | .invalidConstructor =>
      ∃ member before,
        Divides text member before ∧
          ¬ (member = constructorName.toList ∧ before ≠ none)
  | .invalidOperator name =>
      ∃ member before,
        Divides text member before ∧ name = String.ofList member
  | .emptyArgument position =>
      ∃ pieces,
        ListPieces text pieces ∧
          pieces.findIdx? (·.all isBlank) = some position

/-- The offset of a cause that points at something falls between two
characters. -/
theorem Failure.PointsAt.isBoundary
    {text : List Char}
    {failure : Failure}
    (pointsAt : failure.PointsAt text) :
    ∀ offset ∈ failure.offset?, IsBoundary text offset := by
  intro offset carried
  cases failure with
  | brackets error =>
      cases error with
      | unexpectedCloser family found =>
          obtain rfl := Option.some.inj carried
          exact pointsAt.1.isBoundary
      | unclosed family count =>
          contradiction
  | emptySegment found =>
      obtain rfl := Option.some.inj carried
      rcases pointsAt with atEnd | atDot | atList
      · exact ⟨text, [], by simp, atEnd.symm⟩
      · exact atDot.isBoundary
      · exact atList.isBoundary
  | repeatedGroup family found =>
      obtain rfl := Option.some.inj carried
      exact pointsAt.2.isBoundary
  | trailingText found
  | afterIndexer found =>
      obtain rfl := Option.some.inj carried
      exact GoesOnBehind.isBoundary pointsAt
  | disallowedCharacter _ found
  | malformedArity found
  | repeatedArity found
  | arityOrder found
  | methodArityNotAllowed found
  | indexerNotAllowed found =>
      obtain rfl := Option.some.inj carried
      exact StandsAt.isBoundary pointsAt
  | _ =>
      contradiction

section Scanning

variable {text : List Char}

/-- What is reported as unclosed has more openers than closers. -/
theorem exists_of_unclosed?_behind
    {error : Bracket.Error}
    (isOpen : (Depth.behind text).unclosed? = some error) :
    ∃ family count,
      error = .unclosed family count ∧ count ≠ 0 ∧
        openers family text = closers family text + count := by
  rw [Depth.unclosed?, Option.map_eq_some_iff] at isOpen
  obtain ⟨family, found, rfl⟩ := isOpen
  have notZero := List.find?_some found
  simp only [Depth.get_behind, bne_iff_ne] at notZero
  refine ⟨family, _, rfl, ?_, ?_⟩
  · simpa using notZero
  · simp only [Depth.get_behind]
    omega

/-- An imbalance points at the closer without an opener, or counts what is left
open. -/
theorem pointsAt_of_scan
    {error : Bracket.Error}
    (failed : scan text = .error error) :
    Failure.PointsAt text (.brackets error) := by
  cases imbalance_of_scan failed with
  | @closer front back family shape covered level =>
      refine ⟨⟨front, back, shape, rfl⟩, ?_⟩
      rw [shape, takeBytes_byteSize_append]
      exact level
  | unclosed covered isOpen =>
      obtain ⟨family, count, rfl, notZero, counted⟩ :=
        exists_of_unclosed?_behind isOpen
      exact ⟨notZero, text, .inl rfl, counted⟩

/-- Inside of a group at top level, the interior is only ever rejected for what
it leaves open. -/
theorem exists_unclosed_of_scan_interior
    {family : Family}
    {interior : List Char}
    {error : Bracket.Error}
    (balanced : Balanced text)
    (group : TopGroup text family interior)
    (failed : scan interior = .error error) :
    ∃ other count,
      error = .unclosed other count ∧ count ≠ 0 ∧
        openers other interior = closers other interior + count := by
  cases imbalance_of_scan failed with
  | @closer front back other shape covered level =>
      exact absurd failed
        (scan_ne_unexpectedCloser (group.covered balanced) other _)
  | unclosed covered isOpen =>
      exact exists_of_unclosed?_behind isOpen

/-- The first character that may not stand inside a group stands where it is
reported. -/
theorem exists_of_firstOutsider?
    {offset outside : Nat}
    {interior : List Char}
    {character : Char}
    (found :
      firstOutsider? offset interior = some (character, outside)) :
    ∃ before after,
      interior = before ++ character :: after ∧
        outside = offset + byteSize before := by
  induction interior generalizing offset with
  | nil =>
      contradiction
  | cons first rest inductionHypothesis =>
      rw [firstOutsider?] at found
      split at found
      · obtain ⟨before, after, rfl, rfl⟩ := inductionHypothesis found
        exact ⟨first :: before, after, rfl, by simp [Nat.add_assoc]⟩
      · cases found
        exact ⟨[], rest, rfl, rfl⟩

end Scanning

section Segments

variable {text : List Char}

/-- Why the suffix at a cursor is rejected stands at the cursor or inside of the
group that starts there. -/
theorem SuffixFailure.pointsAt
    {stop : Nat}
    {cursor : Cursor}
    {front back : List Char}
    {character : Char}
    {inside : List Char}
    {failure : Failure}
    (balanced : Balanced text)
    (atTop : cursor.AtTop text stop front back)
    (shape : cursor.rest = character :: inside)
    (rejected : SuffixFailure text cursor character inside failure) :
    failure.PointsAt text := by
  have placed : text = front ++ character :: (inside ++ back) := by
    rw [atTop.placed, shape]
    simp
  have stands : StandsAt text cursor.offset character :=
    ⟨front, inside ++ back, placed, atTop.offset.symm⟩
  cases rejected with
  | afterIndexer seen =>
      obtain ⟨before, rfl⟩ := atTop.indexer seen
      exact ⟨before, character :: (inside ++ back), by simp [placed],
        by simp, atTop.offset.symm⟩
  | character =>
      exact stands
  | malformedArity tick
  | repeatedArity tick
  | arityOrder tick
  | methodArity tick =>
      subst tick
      exact stands
  | repeatedGroup opens generic =>
      exact ⟨generic, opens ▸ stands⟩
  | indexer opens =>
      subst opens
      exact stands
  | @interior family interior later _ opens notParen divided group
      rejected =>
      rw [checkGroup] at rejected
      split at rejected
      · next outsider outside found =>
          cases rejected
          obtain ⟨before, after, rfl, rfl⟩ :=
            exists_of_firstOutsider? found
          refine ⟨front ++ character :: before,
            after ++ family.closer :: later ++ back, ?_, ?_⟩
          · simp [placed, divided]
          · simp only [atTop.offset, opens, byteSize_append,
              byteSize_cons, Family.utf8Size_opener]
            omega
      · split at rejected
        · next error failed =>
            cases rejected
            obtain ⟨other, count, rfl, notZero, counted⟩ :=
              exists_unclosed_of_scan_interior balanced group failed
            exact ⟨notZero, interior, .inr ⟨family, group⟩, counted⟩
        · contradiction

/-- Why a segment is rejected stands in the segment, or where it is empty. -/
theorem SegmentSpan.pointsAt
    {span : Span}
    {position : Position}
    {failure : Failure}
    (balanced : Balanced text)
    (isSegment : SegmentSpan text span)
    (failed :
      checkSegment (marked text) position span = .error failure) :
    failure.PointsAt text := by
  rcases cases_of_checkSegment failed with
      ⟨isEmpty, rfl⟩ | ⟨character, rest, isFirst, rfl⟩ |
        ⟨last, character, inside, passes, shape, failedThere⟩
  · obtain ⟨segment, ⟨front, back, rfl, -, rfl⟩, -⟩ := isSegment.covers
    have cut := slice_append front segment back
    rw [text_marked, cut] at isEmpty
    subst segment
    have ends := isSegment.ends
    simp only [List.append_nil] at ends ⊢
    exact ends
  · obtain ⟨segment, ⟨front, back, rfl, -, rfl⟩, -⟩ := isSegment.covers
    have cut := slice_append front segment back
    rw [text_marked, cut] at isFirst
    subst segment
    exact ⟨front, rest ++ back, by simp, rfl⟩
  · obtain ⟨front, back, atTop⟩ :=
      isSegment.exists_atTop_of_passes balanced passes
    exact (atTop.suffixFailure balanced shape failedThere).pointsAt
      balanced atTop shape

end Segments

section Checks

variable
  {scanned : Scan}
  {grammar : Grammar}
  {failure : Failure}
  {stop : Nat}

/-- Segments are rejected for one of them. -/
theorem exists_of_checkSegments
    {position : Position}
    {spans : List Span}
    (failed : checkSegments scanned position spans = .error failure) :
    ∃ span ∈ spans,
      checkSegment scanned position span = .error failure := by
  induction spans with
  | nil =>
      contradiction
  | cons span rest inductionHypothesis =>
      rw [checkSegments] at failed
      split at failed
      · next failedHere =>
          cases failed
          exact ⟨span, by simp, failedHere⟩
      · obtain ⟨other, isLater, failedThere⟩ :=
          inductionHypothesis failed
        exact ⟨other, List.mem_cons_of_mem span isLater, failedThere⟩

/-- A qualifier is rejected for one of its segments. -/
theorem exists_of_checkQualifier
    (failed :
      checkQualifier scanned (divideName scanned stop).1 =
        .error failure) :
    ∃ position,
      ∃ span ∈ segmentSpans scanned stop,
        checkSegment scanned position span = .error failure := by
  unfold checkQualifier at failed
  split at failed
  · contradiction
  · next qualifier isQualifier =>
      obtain ⟨span, member, failedThere⟩ := exists_of_checkSegments failed
      refine ⟨.qualifier, span, ?_, failedThere⟩
      rw [segmentSpans, isQualifier]
      exact List.mem_append_left _ member

/-- A member is rejected as a segment, or because it is not the one that its
grammar asks for. -/
theorem cases_of_checkMember
    (failed :
      checkMember scanned grammar (divideName scanned stop).1
          (divideName scanned stop).2 = .error failure) :
    (∃ position,
      ∃ span ∈ segmentSpans scanned stop,
        checkSegment scanned position span = .error failure) ∨
      (failure = .invalidConstructor ∧
        ¬ (slice scanned.text (divideName scanned stop).2 =
            constructorName.toList ∧
          (divideName scanned stop).1 ≠ none)) ∨
      failure =
        .invalidOperator
          (String.ofList
            (slice scanned.text (divideName scanned stop).2)) := by
  have isLast :
      (divideName scanned stop).2 ∈ segmentSpans scanned stop := by
    simp [segmentSpans]
  unfold checkMember at failed
  split at failed
  · exact .inl ⟨.member, _, isLast, failed⟩
  · exact .inl ⟨.callableMember, _, isLast, failed⟩
  · split at failed
    · contradiction
    · next notConstructor =>
        exact .inr (.inl
          ⟨(Except.error.inj failed).symm, notConstructor⟩)
  · simp only at failed
    split at failed
    · contradiction
    · exact .inr (.inr (Except.error.inj failed).symm)

/-- A scanned text is rejected for its argument list, for one of the segments
of its name, or because its member is not the one that its grammar asks for. -/
theorem cases_of_readScanned
    {raw : String}
    (failed : readScanned raw grammar scanned = .error failure) :
    readArguments scanned grammar = .error failure ∨
      ∃ nameEnd,
        readArguments scanned grammar = .ok nameEnd ∧
          ((∃ position,
            ∃ span ∈ segmentSpans scanned nameEnd.stop,
              checkSegment scanned position span = .error failure) ∨
            (failure = .invalidConstructor ∧
              ¬ (slice scanned.text (divideName scanned nameEnd.stop).2 =
                  constructorName.toList ∧
                (divideName scanned nameEnd.stop).1 ≠ none)) ∨
            failure =
              .invalidOperator
                (String.ofList
                  (slice scanned.text
                    (divideName scanned nameEnd.stop).2))) := by
  rw [readScanned] at failed
  split at failed
  · next rejection inList =>
      cases failed
      exact .inl inList
  · next nameEnd read =>
      refine .inr ⟨nameEnd, read, ?_⟩
      simp only at failed
      split at failed
      · next rejection inQualifier =>
          cases failed
          exact .inl (exists_of_checkQualifier inQualifier)
      · split at failed
        · next rejection inMember =>
            cases failed
            exact cases_of_checkMember inMember
        · contradiction

/-- A text is rejected because nothing is left of it by trimming, because its
brackets do not balance, or while it is read. -/
theorem cases_of_parse
    {raw : String}
    {kind : Kind}
    {rejection : Rejection}
    (rejected : parse raw kind = .error rejection) :
    rejection.raw = raw ∧
      ((trim raw.toList = [] ∧ rejection.reason = .empty) ∨
        (∃ error,
          scan (trim raw.toList) = .error error ∧
            rejection.reason = .brackets error) ∨
        (Balanced (trim raw.toList) ∧
          readScanned raw kind.grammar (marked (trim raw.toList)) =
            .error rejection.reason)) := by
  unfold parse at rejected
  split at rejected
  · next reason failed =>
      cases rejected
      refine ⟨rfl, ?_⟩
      simp only [readText] at failed
      split at failed
      · next isEmpty =>
          cases failed
          exact .inl ⟨isEmpty, rfl⟩
      · split at failed
        · next error scanFailed =>
            cases failed
            exact .inr (.inl ⟨error, scanFailed, rfl⟩)
        · next marks scanned =>
            obtain ⟨balanced, rfl⟩ := scan_eq_ok_iff.mp scanned
            exact .inr (.inr ⟨balanced, failed⟩)
  · contradiction

end Checks

section Parts

variable
  {text : List Char}
  {grammar : Grammar}
  {failure : Failure}
  {nameEnd : NameEnd}

/-- An argument list is rejected at the parenthesis that starts it, behind the
one that ends it, or for its first blank piece. -/
theorem pointsAt_of_readArguments
    (balanced : Balanced text)
    (failed : readArguments (marked text) grammar = .error failure) :
    failure.PointsAt text := by
  rcases noneTop_or_exists_argumentList balanced with
      noneTop | ⟨name, interior, more, rfl, level, noneTop,
        interiorBalanced⟩
  · rw [readArguments_of_noneTop balanced noneTop] at failed
    contradiction
  rw [readArguments_eq_of_shape balanced level noneTop
    interiorBalanced] at failed
  split at failed
  · cases failed
    intro noList
    exact noList name (interior ++ ')' :: more) (by simp) level
  split at failed
  · next isEnd =>
      subst isEnd
      obtain ⟨entries, split, isBlank | ⟨pieces, divided, rfl⟩⟩ :=
        splitArguments_of_balanced
          (@Balanced.of_last_group name interior .paren balanced level
            interiorBalanced)
      · rw [split, isBlank] at failed
        contradiction
      · rw [split] at failed
        have firstBlank :
            (pieces.map fun piece =>
                String.ofList (trim piece)).findIdx? (·.isEmpty) =
              pieces.findIdx? (·.all isBlank) := by
          simp only [List.findIdx?_map, Function.comp_def, isEmpty_trim]
        simp only [firstBlank] at failed
        split at failed
        · next position found =>
            cases failed
            exact ⟨pieces, ⟨name, interior, by simp [listText], level,
              noneTop, divided⟩, found⟩
        · contradiction
  · next goesOn =>
      cases failed
      refine ⟨name ++ '(' :: interior, more, rfl, goesOn, ?_⟩
      simp [show ')'.utf8Size = 1 by decide, Nat.add_assoc]

/-- The parts of a name that has been cut off its argument list are what stands
around its last dot. -/
theorem exists_divides
    (balanced : Balanced text)
    (read : readArguments (marked text) grammar = .ok nameEnd) :
    ∃ member before,
      Divides text member before ∧
        (divideName (marked text) nameEnd.stop).1.map (slice text) =
          before ∧
        slice text (divideName (marked text) nameEnd.stop).2 =
          member := by
  obtain ⟨name, interior, shape, level, noneTop, -, -, stop⟩ :=
    (readArguments_eq_ok_iff balanced).mp read
  obtain ⟨member, before, rfl, beforeLevel, noDot⟩ :=
    exists_eq_nameText level
  subst shape
  have parts := slice_divideName balanced beforeLevel noDot
  rw [← stop] at parts
  exact ⟨member, before, ⟨⟨interior, rfl⟩, level, noneTop, beforeLevel,
    noDot⟩, parts⟩

/-- The cause for which a scanned text is rejected points at what it names. -/
theorem pointsAt_of_readScanned
    {raw : String}
    (balanced : Balanced text)
    (failed : readScanned raw grammar (marked text) = .error failure) :
    failure.PointsAt text := by
  rcases cases_of_readScanned failed with
      inList | ⟨nameEnd, read, inName⟩
  · exact pointsAt_of_readArguments balanced inList
  · obtain ⟨member, before, divides, rfl, rfl⟩ :=
      exists_divides balanced read
    rcases inName with
        ⟨position, span, isSegment, rejected⟩ |
          ⟨rfl, notConstructor⟩ | rfl
    · exact (segmentSpan_of_mem_segmentSpans balanced read isSegment).pointsAt
        balanced rejected
    · exact ⟨_, _, divides, by simpa using notConstructor⟩
    · exact ⟨_, _, divides, rfl⟩

end Parts

/-- A rejected text is quoted as it was given.  The offset of the cause, if it
has one, falls between two characters of the trimmed text, and what the cause
names stands there. -/
theorem rejection_points_at_cause
    (raw : String)
    (kind : Kind)
    (rejection : Rejection)
    (rejected : parse raw kind = .error rejection) :
    rejection.raw = raw ∧
      (∀ offset ∈ rejection.reason.offset?,
        IsBoundary (trim raw.toList) offset ∧
          offset ≤ byteSize (trim raw.toList)) ∧
      rejection.reason.PointsAt (trim raw.toList) := by
  obtain ⟨isRaw, cause⟩ := cases_of_parse rejected
  have pointsAt : rejection.reason.PointsAt (trim raw.toList) := by
    rcases cause with
        ⟨isEmpty, reason⟩ | ⟨error, failed, reason⟩ | ⟨balanced, failed⟩
    · rw [reason]
      exact isEmpty
    · rw [reason]
      exact pointsAt_of_scan failed
    · exact pointsAt_of_readScanned balanced failed
  refine ⟨isRaw, ?_, pointsAt⟩
  intro offset carried
  have boundary := pointsAt.isBoundary offset carried
  exact ⟨boundary, boundary.le_byteSize⟩

/-- A second arity behind letters of two bytes, in a text with blanks around
it. -/
theorem repeated_arity_points_at_backtick :
    let raw := " \u00c9.Gr\u00f6\u00dfe\x601\x602(int)\t"
    parse raw .method = .error ⟨raw, .repeatedArity 12⟩ ∧
      StandsAt (trim raw.toList) 12 '\x60' := by
  intro raw
  have rejected :
      parse raw .method = .error ⟨raw, .repeatedArity 12⟩ := by
    decide +kernel
  exact ⟨rejected,
    (rejection_points_at_cause raw .method _ rejected).2.2⟩

end ApiIndex.Signature

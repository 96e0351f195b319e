import ApiIndex.Proofs.Signature.Rejection

namespace ApiIndex.Signature

open ApiIndex.Text
open ApiIndex.Bracket

/-!
# Bracket errors behind a successful scan

Once the brackets of a text have been scanned, the reader still asks for the
closer of an opener and scans parts of the text again, and where it gets no
closer or the second scan fails it reports a bracket error.  Families may cross,
so a text between an opener and its closer need not balance, and yet most of
these errors cannot occur: the reader only ever asks at top level, and an
argument list reaches to the end of the text.  What remains is a group whose
interior leaves a bracket of another family open.
-/

/-- What a scan promises wherever the reader relies on it. -/
structure Dependable
    (text : List Char)
    (grammar : Grammar)
    (scanned : Scan) : Prop where
  /-- The parenthesis that starts the argument list has a closer. -/
  listCloses :
    ∀ opening,
      scanned.findTop? '(' scanned.whole = some opening →
        ∃ closing, scanned.closerOf? opening = some closing
  /-- The interior of a list that ends the text is split. -/
  listSplits :
    ∀ opening closing,
      scanned.findTop? '(' scanned.whole = some opening →
        scanned.closerOf? opening = some closing →
          closing + 1 = byteSize text →
            ∃ entries,
              splitArguments (slice text ⟨opening + 1, closing⟩) =
                .ok entries
  /-- Nothing is open wherever the reading of suffixes comes by. -/
  cursorAtTop :
    ∀ nameEnd,
      readArguments scanned grammar = .ok nameEnd →
        ∀ span ∈ segmentSpans scanned nameEnd.stop,
          ∀ position cursor,
            Passes scanned position span.stop
                (suffixStart scanned span) cursor →
              cursor.rest = slice text ⟨cursor.offset, span.stop⟩ ∧
                ∀ family,
                  (Depth.behind
                    (takeBytes cursor.offset text)).get family = 0
  /-- An opener there has its closer in the segment, and the scan of what stands
  between the two meets no closer too many. -/
  groupCloses :
    ∀ nameEnd,
      readArguments scanned grammar = .ok nameEnd →
        ∀ span ∈ segmentSpans scanned nameEnd.stop,
          ∀ position cursor,
            Passes scanned position span.stop
                (suffixStart scanned span) cursor →
              ∀ family inside,
                cursor.rest = Family.opener family :: inside →
                  ∃ close,
                    scanned.closerOf? cursor.offset = some close ∧
                      close < span.stop ∧
                      ∀ other offset,
                        scan (takeBytes (close - (cursor.offset + 1))
                            inside) ≠
                          .error (.unexpectedCloser other offset)

section Lists

variable {text : List Char}

/-- A first parenthesis at top level starts an argument list. -/
theorem exists_argumentList_of_findTop?
    {opening : Nat}
    (balanced : Balanced text)
    (found :
      (marked text).findTop? '(' (marked text).whole = some opening) :
    ∃ name interior more,
      text = name ++ '(' :: interior ++ ')' :: more ∧
        Level name ∧ NoneTop '(' name ∧ BalancedIn .paren interior ∧
        opening = byteSize name := by
  rcases noneTop_or_exists_argumentList balanced with
      noneTop | ⟨name, interior, more, rfl, level, noneTop,
        interiorBalanced⟩
  · rw [findTop?_eq_none (by decide) balanced noneTop] at found
    contradiction
  · have isFirst :=
      (argumentList_of_shape balanced level noneTop interiorBalanced).1
    rw [isFirst] at found
    exact ⟨name, interior, more, rfl, level, noneTop, interiorBalanced,
      (Option.some.inj found).symm⟩

/-- An argument list is never rejected for its brackets. -/
theorem readArguments_ne_brackets
    {grammar : Grammar}
    (balanced : Balanced text)
    (error : Bracket.Error) :
    readArguments (marked text) grammar ≠ .error (.brackets error) := by
  intro failed
  rcases noneTop_or_exists_argumentList balanced with
      noneTop | ⟨name, interior, more, rfl, level, noneTop,
        interiorBalanced⟩
  · rw [readArguments_of_noneTop balanced noneTop] at failed
    contradiction
  rw [readArguments_eq_of_shape balanced level noneTop
    interiorBalanced] at failed
  split at failed
  · cases failed
  split at failed
  · next isEnd =>
      subst isEnd
      obtain ⟨entries, split, -⟩ :=
        splitArguments_of_balanced
          (@Balanced.of_last_group name interior .paren balanced level
            interiorBalanced)
      simp only [split] at failed
      split at failed <;> cases failed
  · cases failed

end Lists

section Groups

variable
  {text : List Char}
  {stop : Nat}
  {cursor : Cursor}
  {front back : List Char}

/-- The part of a text before a cursor at top level, and the part behind it. -/
theorem Cursor.AtTop.cut
    (atTop : cursor.AtTop text stop front back) :
    takeBytes cursor.offset text = front ∧
      slice text ⟨cursor.offset, stop⟩ = cursor.rest := by
  rw [atTop.offset, atTop.stops, atTop.placed]
  refine ⟨?_, slice_append front cursor.rest back⟩
  rw [List.append_assoc, takeBytes_byteSize_append]

/-- An opener at a cursor at top level has its closer inside the segment, and
the part between the two never closes too much. -/
theorem Cursor.AtTop.exists_closer
    {family : Family}
    {inside : List Char}
    (balanced : Balanced text)
    (atTop : cursor.AtTop text stop front back)
    (shape : cursor.rest = family.opener :: inside) :
    ∃ close,
      (marked text).closerOf? cursor.offset = some close ∧
        close < stop ∧
        ∀ other offset,
          scan (takeBytes (close - (cursor.offset + 1)) inside) ≠
            .error (.unexpectedCloser other offset) := by
  obtain ⟨interior, later, divided, interiorBalanced, group⟩ :=
    atTop.exists_interior balanced shape
  have covered : Covered family front := by
    have whole := (balanced family).covered
    rw [atTop.placed, List.append_assoc] at whole
    exact whole.of_append
  obtain ⟨close, within, taken, -, -⟩ :=
    @group_of_shape family front inside back interior later covered
      interiorBalanced divided
  rw [← shape, ← atTop.placed, ← atTop.offset] at close
  rw [← shape, ← atTop.stops] at within
  rw [← atTop.offset] at taken
  refine ⟨_, close, within, ?_⟩
  rw [taken]
  exact scan_ne_unexpectedCloser (group.covered balanced)

end Groups

/-- A scan that succeeds keeps its promises. -/
theorem dependable_marked
    {text : List Char}
    (balanced : Balanced text)
    (grammar : Grammar) :
    Dependable text grammar (marked text) where
  listCloses := by
    intro opening found
    obtain ⟨name, interior, more, rfl, level, noneTop,
        interiorBalanced, rfl⟩ :=
      exists_argumentList_of_findTop? balanced found
    exact ⟨_, (argumentList_of_shape balanced level noneTop
      interiorBalanced).2.1⟩
  listSplits := by
    intro opening closing found closes ends
    obtain ⟨name, interior, more, rfl, level, noneTop,
        interiorBalanced, rfl⟩ :=
      exists_argumentList_of_findTop? balanced found
    obtain ⟨-, close, cut, atEnd⟩ :=
      argumentList_of_shape balanced level noneTop interiorBalanced
    obtain rfl := Option.some.inj (close.symm.trans closes)
    obtain rfl := atEnd.mp ends
    obtain ⟨entries, split, -⟩ :=
      splitArguments_of_balanced
        (@Balanced.of_last_group name interior .paren balanced level
          interiorBalanced)
    exact ⟨entries, by rw [cut, split]⟩
  cursorAtTop := by
    intro nameEnd read span member position cursor passes
    obtain ⟨front, back, atTop⟩ :=
      (segmentSpan_of_mem_segmentSpans balanced read member)
        |>.exists_atTop_of_passes balanced passes
    obtain ⟨before, rest⟩ := atTop.cut
    refine ⟨rest.symm, ?_⟩
    intro family
    simp [before, atTop.frontLevel family]
  groupCloses := by
    intro nameEnd read span member position cursor passes family inside
      shape
    obtain ⟨front, back, atTop⟩ :=
      (segmentSpan_of_mem_segmentSpans balanced read member)
        |>.exists_atTop_of_passes balanced passes
    exact atTop.exists_closer balanced shape

/-- A suffix is rejected for its brackets only if the interior of a group leaves
a bracket of another family open. -/
theorem SuffixFailure.exists_group_of_brackets
    {text : List Char}
    {cursor : Cursor}
    {character : Char}
    {inside : List Char}
    {error : Bracket.Error}
    (balanced : Balanced text)
    (rejected :
      SuffixFailure text cursor character inside (.brackets error)) :
    ∃ family interior other count,
      TopGroup text family interior ∧ family ≠ .paren ∧
        other ≠ family ∧ scan interior = .error error ∧
        error = .unclosed other count := by
  cases rejected with
  | @interior family interior later _ opens notParen divided group
      rejected =>
      rw [checkGroup] at rejected
      split at rejected
      · cases rejected
      · split at rejected
        · next imbalance failed =>
            cases rejected
            obtain ⟨other, count, rfl, notZero, counted⟩ :=
              exists_unclosed_of_scan_interior balanced group failed
            refine ⟨family, interior, other, count, group, notParen, ?_,
              failed, rfl⟩
            rintro rfl
            obtain ⟨-, -, -, -, interiorBalanced⟩ := group
            have level := interiorBalanced.level
            omega
        · contradiction

/-- A scanned text is rejected for its brackets only if a group leaves a bracket
of another family open. -/
theorem exists_group_of_readScanned
    {raw : String}
    {grammar : Grammar}
    {text : List Char}
    {error : Bracket.Error}
    (balanced : Balanced text)
    (failed :
      readScanned raw grammar (marked text) = .error (.brackets error)) :
    ∃ family interior other count,
      TopGroup text family interior ∧ family ≠ .paren ∧
        other ≠ family ∧ scan interior = .error error ∧
        error = .unclosed other count := by
  rcases cases_of_readScanned failed with
      inList | ⟨nameEnd, read,
        ⟨position, span, isSegment, rejected⟩ | ⟨isOther, -⟩ | isOther⟩
  · exact absurd inList (readArguments_ne_brackets balanced error)
  · have segment :=
      segmentSpan_of_mem_segmentSpans balanced read isSegment
    rcases cases_of_checkSegment rejected with
        ⟨-, isOther⟩ | ⟨character, rest, -, isOther⟩ |
          ⟨last, character, inside, passes, shape, failedThere⟩
    · cases isOther
    · cases isOther
    · obtain ⟨front, back, atTop⟩ :=
        segment.exists_atTop_of_passes balanced passes
      exact (atTop.suffixFailure balanced shape failedThere)
        |>.exists_group_of_brackets balanced
  · cases isOther
  · cases isOther

/-- Behind a successful scan none of the fallback errors occurs: lists and groups
have their closers, the reader stands at top level, and the scans of parts of
the text never meet a closer too many.  A text is rejected for its brackets only
by the first scan, or for a bracket of another family that the interior of a
group leaves open. -/
theorem fallback_errors_unreachable
    (raw : String)
    (kind : Kind) :
    let text := trim raw.toList
    (∀ scanned,
      scan text = .ok scanned →
        Dependable text kind.grammar scanned) ∧
      ∀ rejection error,
        parse raw kind = .error rejection →
          rejection.reason = .brackets error →
            scan text = .error error ∨
              ∃ family interior other count,
                TopGroup text family interior ∧ family ≠ .paren ∧
                  other ≠ family ∧ scan interior = .error error ∧
                  error = .unclosed other count := by
  intro text
  refine ⟨?_, ?_⟩
  · intro scanned succeeded
    obtain ⟨balanced, rfl⟩ := scan_eq_ok_iff.mp succeeded
    exact dependable_marked balanced kind.grammar
  · intro rejection error rejected isBrackets
    rcases (cases_of_parse rejected).2 with
        ⟨-, reason⟩ | ⟨found, failed, reason⟩ | ⟨balanced, failed⟩
    · rw [reason] at isBrackets
      contradiction
    · rw [reason] at isBrackets
      cases isBrackets
      exact .inl failed
    · rw [isBrackets] at failed
      exact .inr (exists_group_of_readScanned balanced failed)

/-- A brace crosses the angle brackets that it is opened in, so the scan of the
group fails behind the scan of the text. -/
theorem crossing_brace_is_unclosed :
    let raw := " Foo.Bar<A\x7b>\x7d"
    let text := trim raw.toList
    parse raw .classType =
        .error ⟨raw, .brackets (.unclosed .brace 1)⟩ ∧
      scan text = .ok (marked text) ∧
      Dependable text .plain (marked text) ∧
      ∃ family interior,
        TopGroup text family interior ∧ family ≠ .brace ∧
          scan interior = .error (.unclosed .brace 1) := by
  intro raw text
  have rejected :
      parse raw .classType =
        .error ⟨raw, .brackets (.unclosed .brace 1)⟩ := by
    decide +kernel
  have scanned : scan text = .ok (marked text) := by
    decide +kernel
  obtain ⟨dependable, cause⟩ :=
    fallback_errors_unreachable raw .classType
  refine ⟨rejected, scanned, dependable _ scanned, ?_⟩
  rcases cause _ _ rejected rfl with
      failed | ⟨family, interior, other, count, group, -, differs,
        failed, isUnclosed⟩
  · rw [scanned] at failed
    contradiction
  · cases isUnclosed
    exact ⟨family, interior, group, differs.symm, failed⟩

end ApiIndex.Signature

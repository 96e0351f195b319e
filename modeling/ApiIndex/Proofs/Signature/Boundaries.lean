import ApiIndex.Proofs.Bracket.Matching
import ApiIndex.Proofs.Bracket.Ranges
import ApiIndex.Proofs.Signature.Fallback

namespace ApiIndex.Signature

open ApiIndex.Text
open ApiIndex.Bracket

/-!
# Where the reader cuts a text

The reader works with byte offsets, and it computes them: it adds numbers of
backticks and digits, and steps over brackets and dots as over characters of one
byte.  Everything it cuts out of a text is listed here with the span at which it
does so, from the argument list down to the digits of an arity.  All these spans
start and end between two characters, and each suffix that is read moves the
cursor on, so a segment is read in no more steps than it has bytes.
-/

/-- The backticks at a cursor. -/
def Cursor.ticks
    (cursor : Cursor) :
    List Char :=
  cursor.rest.takeWhile (· == '\x60')

/-- What is behind the backticks at a cursor. -/
def Cursor.behindTicks
    (cursor : Cursor) :
    List Char :=
  cursor.rest.dropWhile (· == '\x60')

/-- The digits behind the backticks at a cursor. -/
def Cursor.digits
    (cursor : Cursor) :
    List Char :=
  cursor.behindTicks.takeWhile isAsciiDigit

/-- Reading a text finds the parentheses of an argument list. -/
structure FindsList
    (raw : String)
    (scanned : Scan)
    (opening closing : Nat) : Prop where
  succeeds : scan (trim raw.toList) = .ok scanned
  opens : scanned.findTop? '(' scanned.whole = some opening
  closes : scanned.closerOf? opening = some closing

/-- Reading a text as a declaration of a kind finds where its name ends. -/
structure FindsName
    (raw : String)
    (kind : Kind)
    (scanned : Scan)
    (nameEnd : NameEnd) : Prop where
  succeeds : scan (trim raw.toList) = .ok scanned
  read : readArguments scanned kind.grammar = .ok nameEnd

/-- Reading a text as a declaration of a kind comes by a cursor while it checks
the segment that a span covers. -/
structure ComesBy
    (raw : String)
    (kind : Kind)
    (scanned : Scan)
    (position : Position)
    (span : Span)
    (cursor : Cursor) : Prop where
  segment :
    ∃ nameEnd,
      FindsName raw kind scanned nameEnd ∧
        span ∈ segmentSpans scanned nameEnd.stop
  passes :
    Passes scanned position span.stop (suffixStart scanned span) cursor

/-- Reading a text as a declaration of a kind cuts a part out of the trimmed
text, or out of the interior of its argument list, where a span says.  A part is
listed whether or not an earlier check fails. -/
inductive Cuts
    (raw : String)
    (kind : Kind) :
    List Char →
      Span →
      List Char →
      Prop where
  /-- The interior of the argument list. -/
  | list
      {scanned : Scan}
      {opening closing : Nat}
      (finds : FindsList raw scanned opening closing) :
      Cuts raw kind scanned.text ⟨opening + 1, closing⟩
        (slice scanned.text ⟨opening + 1, closing⟩)
  /-- An entry, out of the interior of the argument list. -/
  | entry
      {scanned inner : Scan}
      {opening closing : Nat}
      {span : Span}
      (finds : FindsList raw scanned opening closing)
      (interior :
        scan (slice scanned.text ⟨opening + 1, closing⟩) = .ok inner)
      (member : span ∈ inner.splitTop ',' inner.whole) :
      Cuts raw kind inner.text span (slice inner.text span)
  /-- The qualifier. -/
  | qualifier
      {scanned : Scan}
      {nameEnd : NameEnd}
      {span : Span}
      (finds : FindsName raw kind scanned nameEnd)
      (isQualifier : (divideName scanned nameEnd.stop).1 = some span) :
      Cuts raw kind scanned.text span (slice scanned.text span)
  /-- A segment of the qualifier, or the member. -/
  | segment
      {scanned : Scan}
      {nameEnd : NameEnd}
      {span : Span}
      (finds : FindsName raw kind scanned nameEnd)
      (member : span ∈ segmentSpans scanned nameEnd.stop) :
      Cuts raw kind scanned.text span (slice scanned.text span)
  /-- The identifier at the start of a segment. -/
  | identifier
      {scanned : Scan}
      {nameEnd : NameEnd}
      {span : Span}
      (finds : FindsName raw kind scanned nameEnd)
      (member : span ∈ segmentSpans scanned nameEnd.stop) :
      Cuts raw kind scanned.text
        ⟨span.start, (suffixStart scanned span).offset⟩
        ((slice scanned.text span).takeWhile isIdentifier)
  /-- What is left of a segment at a cursor. -/
  | rest
      {scanned : Scan}
      {position : Position}
      {span : Span}
      {cursor : Cursor}
      (comesBy : ComesBy raw kind scanned position span cursor) :
      Cuts raw kind scanned.text ⟨cursor.offset, span.stop⟩ cursor.rest
  /-- The backticks at a cursor. -/
  | ticks
      {scanned : Scan}
      {position : Position}
      {span : Span}
      {cursor : Cursor}
      (comesBy : ComesBy raw kind scanned position span cursor) :
      Cuts raw kind scanned.text
        ⟨cursor.offset, cursor.offset + cursor.ticks.length⟩ cursor.ticks
  /-- What is left of a segment behind the backticks at a cursor. -/
  | behindTicks
      {scanned : Scan}
      {position : Position}
      {span : Span}
      {cursor : Cursor}
      (comesBy : ComesBy raw kind scanned position span cursor) :
      Cuts raw kind scanned.text
        ⟨cursor.offset + cursor.ticks.length, span.stop⟩
        cursor.behindTicks
  /-- The digits behind the backticks at a cursor. -/
  | digits
      {scanned : Scan}
      {position : Position}
      {span : Span}
      {cursor : Cursor}
      (comesBy : ComesBy raw kind scanned position span cursor) :
      Cuts raw kind scanned.text
        ⟨cursor.offset + cursor.ticks.length,
          cursor.offset + cursor.ticks.length + cursor.digits.length⟩
        cursor.digits
  /-- The interior of the group at a cursor. -/
  | group
      {scanned : Scan}
      {position : Position}
      {span : Span}
      {cursor : Cursor}
      {character : Char}
      {inside : List Char}
      {close : Nat}
      (comesBy : ComesBy raw kind scanned position span cursor)
      (shape : cursor.rest = character :: inside)
      (closes : scanned.closerOf? cursor.offset = some close) :
      Cuts raw kind scanned.text ⟨cursor.offset + 1, close⟩
        (takeBytes (close - (cursor.offset + 1)) inside)

section Cursors

variable
  {text front back : List Char}
  {position : Position}
  {stop : Nat}
  {cursor next : Cursor}

theorem Cursor.ticks_append_behindTicks
    (cursor : Cursor) :
    cursor.ticks ++ cursor.behindTicks = cursor.rest :=
  List.takeWhile_append_dropWhile

/-- Backticks take one byte each. -/
theorem byteSize_ticks
    (cursor : Cursor) :
    byteSize cursor.ticks = cursor.ticks.length := by
  apply byteSize_eq_length
  intro character member
  have isTick := List.mem_takeWhile_imp member
  simp only [beq_iff_eq] at isTick
  rw [isTick]
  decide

/-- Digits take one byte each. -/
theorem byteSize_digits
    (cursor : Cursor) :
    byteSize cursor.digits = cursor.digits.length :=
  byteSize_eq_length fun _ member =>
    utf8Size_of_isAsciiDigit (List.mem_takeWhile_imp member)

namespace Cursor.AtTop

/-- A part of what is left of a segment is covered by the span that starts
behind what is before the part. -/
theorem covers
    (before part after : List Char)
    (atTop : cursor.AtTop text stop front back)
    (shape : before ++ part ++ after = cursor.rest) :
    Covers text
      ⟨cursor.offset + byteSize before,
        cursor.offset + byteSize before + byteSize part⟩ part := by
  refine ⟨front ++ before, after ++ back, ?_, ?_⟩
  · rw [atTop.placed, ← shape]
    simp
  · rw [atTop.offset]
    simp [Nat.add_assoc]

/-- What is left of a segment behind some part of it reaches to its end. -/
theorem covers_rest
    (before part : List Char)
    (atTop : cursor.AtTop text stop front back)
    (shape : before ++ part = cursor.rest) :
    Covers text ⟨cursor.offset + byteSize before, stop⟩ part := by
  have reaches :
      stop = cursor.offset + byteSize before + byteSize part := by
    rw [atTop.stops, atTop.offset, ← shape]
    simp [Nat.add_assoc]
  rw [reaches]
  exact covers before part [] atTop (by simpa using shape)

/-- The interior of a group at a cursor is covered by the span between its
brackets. -/
theorem covers_group
    {character : Char}
    {inside : List Char}
    {close : Nat}
    (balanced : Balanced text)
    (atTop : cursor.AtTop text stop front back)
    (shape : cursor.rest = character :: inside)
    (closes : (marked text).closerOf? cursor.offset = some close) :
    Covers text ⟨cursor.offset + 1, close⟩
      (takeBytes (close - (cursor.offset + 1)) inside) := by
  have stands : StandsAt text cursor.offset character :=
    ⟨front, inside ++ back, by simp [atTop.placed, shape],
      atTop.offset.symm⟩
  obtain ⟨family, opens⟩ := exists_opener_of_closerOf? closes
  obtain rfl := stands.unique opens
  obtain ⟨interior, later, divided, interiorBalanced, -⟩ :=
    atTop.exists_interior balanced shape
  have covered : Covered family front := by
    have whole := (balanced family).covered
    rw [atTop.placed, List.append_assoc] at whole
    exact whole.of_append
  obtain ⟨found, -, taken, -, -⟩ :=
    @group_of_shape family front inside back interior later covered
      interiorBalanced divided
  rw [← shape, ← atTop.placed, ← atTop.offset, closes] at found
  have isClose :
      close =
        cursor.offset + byteSize [family.opener] + byteSize interior := by
    rw [Option.some.inj found, atTop.offset]
    simp [Nat.add_assoc]
  have here :=
    covers [family.opener] interior (family.closer :: later) atTop
      (by simp [shape, divided])
  rw [← atTop.offset, ← Option.some.inj found] at taken
  rw [taken]
  rwa [← isClose, byteSize_cons, Family.utf8Size_opener] at here

/-- A cursor stands between two characters, and not behind its segment. -/
theorem inside
    (atTop : cursor.AtTop text stop front back) :
    cursor.offset ≤ stop ∧ IsBoundary text cursor.offset := by
  refine ⟨?_, front, cursor.rest ++ back, ?_, atTop.offset.symm⟩
  · rw [atTop.offset, atTop.stops]
    simp
  · rw [← List.append_assoc]
    exact atTop.placed

/-- Of two cursors in a segment, the one that leaves less of it stands behind the
other one. -/
theorem offset_lt
    {nextFront : List Char}
    (atTop : cursor.AtTop text stop front back)
    (nextAtTop : next.AtTop text stop nextFront back)
    (shorter : next.rest.length < cursor.rest.length) :
    cursor.offset < next.offset := by
  have same : front ++ cursor.rest = nextFront ++ next.rest :=
    List.append_cancel_right (atTop.placed.symm.trans nextAtTop.placed)
  have lengths := congrArg List.length same
  simp only [List.length_append] at lengths
  have inFront : front <+: nextFront ++ next.rest :=
    ⟨cursor.rest, same⟩
  obtain ⟨between, rfl⟩ : front <+: nextFront :=
    List.prefix_of_prefix_length_le inFront
      (List.prefix_append nextFront next.rest) (by omega)
  cases between with
  | nil =>
      simp only [List.append_nil] at lengths
      omega
  | cons first others =>
      have positive := first.utf8Size_pos
      rw [atTop.offset, nextAtTop.offset, byteSize_append, byteSize_cons]
      omega

/-- Reading a suffix moves the cursor on, inside of the segment. -/
theorem advances
    (balanced : Balanced text)
    (atTop : cursor.AtTop text stop front back)
    (advances : Advances (marked text) position stop cursor next) :
    cursor.offset < next.offset ∧
      next.offset ≤ stop ∧ IsBoundary text next.offset := by
  obtain ⟨nextFront, nextAtTop⟩ := atTop.advance balanced advances
  obtain ⟨character, inside, shape, read⟩ := advances
  have shorter := length_rest_of_readSuffix shape read
  exact ⟨atTop.offset_lt nextAtTop shorter, nextAtTop.inside⟩

end Cursor.AtTop

end Cursors

section Parts

variable
  {raw : String}
  {kind : Kind}
  {scanned : Scan}
  {span : Span}

/-- The interior of an argument list is covered by the span between its
parentheses. -/
theorem FindsList.covers
    {opening closing : Nat}
    (finds : FindsList raw scanned opening closing) :
    Covers scanned.text ⟨opening + 1, closing⟩
      (slice scanned.text ⟨opening + 1, closing⟩) := by
  obtain ⟨balanced, rfl⟩ := scan_eq_ok_iff.mp finds.succeeds
  obtain ⟨family, front, interior, back, shape, -, rfl, rfl⟩ :=
    exists_paired_of_closerOf? balanced finds.closes
  have covers :
      Covers (marked (trim raw.toList)).text
        ⟨byteSize front + 1, byteSize (front ++ family.opener :: interior)⟩
        interior := by
    refine ⟨front ++ [family.opener], family.closer :: back, ?_, ?_⟩
    · simp [shape]
    · simp
  exact covers.of_slice

/-- An entry of an interior that balances is covered by its span. -/
theorem covers_of_mem_splitTop
    {interior : List Char}
    {inner : Scan}
    (succeeds : scan interior = .ok inner)
    (member : span ∈ inner.splitTop ',' inner.whole) :
    Covers inner.text span (slice inner.text span) := by
  obtain ⟨balanced, rfl⟩ := scan_eq_ok_iff.mp succeeds
  obtain ⟨pieces, divided⟩ :=
    @Pieces.exists_of_level ',' (by decide) interior balanced.level
  have covered : ∀ family, Covered family interior :=
    fun family => (balanced family).covered
  have stands :=
    @splitTop_pieces ',' [] interior [] pieces (by decide) covered .nil
      divided
  simp only [List.nil_append, List.append_nil] at stands
  obtain ⟨piece, -, front, back, shape, -, rfl⟩ :=
    exists_piece_of_mem stands member
  have covers : Covers interior _ piece := ⟨front, back, shape, rfl⟩
  exact covers.of_slice

namespace FindsName

variable {nameEnd : NameEnd}

/-- The qualifier is covered by the span before the last dot of the name. -/
theorem covers_qualifier
    (finds : FindsName raw kind scanned nameEnd)
    (isQualifier : (divideName scanned nameEnd.stop).1 = some span) :
    Covers scanned.text span (slice scanned.text span) := by
  obtain ⟨balanced, rfl⟩ := scan_eq_ok_iff.mp finds.succeeds
  rw [divideName] at isQualifier
  split at isQualifier
  · next dot found =>
      obtain rfl := Option.some.inj isQualifier
      obtain ⟨front, back, shape, rfl⟩ :=
        ((findLastTop?_eq_some_iff balanced).mp found).1.1.stands
      have covers :
          Covers (marked (trim raw.toList)).text ⟨0, byteSize front⟩
            front :=
        ⟨[], '.' :: back, shape, rfl⟩
      exact covers.of_slice
  · cases isQualifier

theorem segmentSpan
    (finds : FindsName raw kind scanned nameEnd)
    (member : span ∈ segmentSpans scanned nameEnd.stop) :
    SegmentSpan scanned.text span := by
  obtain ⟨balanced, rfl⟩ := scan_eq_ok_iff.mp finds.succeeds
  exact segmentSpan_of_mem_segmentSpans balanced finds.read member

end FindsName

/-- A segment is covered by its span. -/
theorem SegmentSpan.covers_segment
    (isSegment : SegmentSpan scanned.text span) :
    Covers scanned.text span (slice scanned.text span) := by
  obtain ⟨segment, ⟨front, back, shape, -, rfl⟩, -⟩ := isSegment.covers
  have covers : Covers scanned.text _ segment := ⟨front, back, shape, rfl⟩
  exact covers.of_slice

/-- The identifier of a segment is covered by the part of its span before the
suffixes. -/
theorem SegmentSpan.covers_identifier
    (isSegment : SegmentSpan scanned.text span) :
    Covers scanned.text
      ⟨span.start, (suffixStart scanned span).offset⟩
      ((slice scanned.text span).takeWhile isIdentifier) := by
  obtain ⟨front, back, shape, isSpan⟩ := isSegment.covers_segment
  refine ⟨front,
    (slice scanned.text span).dropWhile isIdentifier ++ back, ?_, ?_⟩
  · rw [← List.append_assoc, List.append_assoc front,
      List.takeWhile_append_dropWhile]
    exact shape
  · rw [suffixStart, byteSize_append, congrArg Span.start isSpan]

/-- A cursor that the reading comes by stands at top level. -/
theorem ComesBy.exists_atTop
    {position : Position}
    {cursor : Cursor}
    (comesBy : ComesBy raw kind scanned position span cursor) :
    Balanced scanned.text ∧ scanned = marked scanned.text ∧
      ∃ front back, cursor.AtTop scanned.text span.stop front back := by
  obtain ⟨⟨nameEnd, finds, member⟩, passes⟩ := comesBy
  have isSegment := finds.segmentSpan member
  obtain ⟨balanced, rfl⟩ := scan_eq_ok_iff.mp finds.succeeds
  exact ⟨balanced, rfl, isSegment.exists_atTop_of_passes balanced passes⟩

/-- Whatever the reader cuts out of a text is covered by the span at which it
cuts. -/
theorem Cuts.covers
    {whole part : List Char}
    (cuts : Cuts raw kind whole span part) :
    Covers whole span part := by
  cases cuts with
  | list finds =>
      exact finds.covers
  | entry finds interior member =>
      exact covers_of_mem_splitTop interior member
  | qualifier finds isQualifier =>
      exact finds.covers_qualifier isQualifier
  | segment finds member =>
      exact (finds.segmentSpan member).covers_segment
  | identifier finds member =>
      exact (finds.segmentSpan member).covers_identifier
  | @rest _ _ _ cursor comesBy =>
      obtain ⟨-, -, front, back, atTop⟩ := comesBy.exists_atTop
      exact atTop.covers_rest [] cursor.rest (List.nil_append _)
  | @ticks _ _ _ cursor comesBy =>
      obtain ⟨-, -, front, back, atTop⟩ := comesBy.exists_atTop
      rw [← byteSize_ticks]
      exact atTop.covers [] cursor.ticks cursor.behindTicks
        cursor.ticks_append_behindTicks
  | @behindTicks _ _ _ cursor comesBy =>
      obtain ⟨-, -, front, back, atTop⟩ := comesBy.exists_atTop
      rw [← byteSize_ticks]
      exact atTop.covers_rest cursor.ticks cursor.behindTicks
        cursor.ticks_append_behindTicks
  | @digits _ _ _ cursor comesBy =>
      obtain ⟨-, -, front, back, atTop⟩ := comesBy.exists_atTop
      have divided :
          cursor.ticks ++ cursor.digits ++
              cursor.behindTicks.dropWhile isAsciiDigit =
            cursor.rest := by
        rw [List.append_assoc, Cursor.digits,
          List.takeWhile_append_dropWhile,
          cursor.ticks_append_behindTicks]
      rw [← byteSize_ticks, ← byteSize_digits]
      exact atTop.covers cursor.ticks cursor.digits _ divided
  | group comesBy shape closes =>
      obtain ⟨balanced, isMarked, front, back, atTop⟩ :=
        comesBy.exists_atTop
      rw [isMarked] at closes
      exact atTop.covers_group balanced shape closes

end Parts

section Progress

variable
  {raw : String}
  {kind : Kind}
  {scanned : Scan}
  {position : Position}
  {span : Span}
  {cursor next : Cursor}

/-- Behind a suffix that is read, the reading comes by the next cursor. -/
theorem ComesBy.tail
    (comesBy : ComesBy raw kind scanned position span cursor)
    (advances : Advances scanned position span.stop cursor next) :
    ComesBy raw kind scanned position span next :=
  ⟨comesBy.segment, comesBy.passes.tail advances⟩

/-- Reading a suffix moves the cursor on, between two characters of the
segment. -/
theorem ComesBy.moves
    (comesBy : ComesBy raw kind scanned position span cursor)
    (advances : Advances scanned position span.stop cursor next) :
    cursor.offset < next.offset ∧
      next.offset ≤ span.stop ∧ IsBoundary scanned.text next.offset := by
  obtain ⟨balanced, isMarked, front, back, atTop⟩ := comesBy.exists_atTop
  rw [isMarked] at advances
  exact atTop.advances balanced advances

/-- From a cursor on, no more suffixes are read than the segment has bytes
left. -/
theorem ComesBy.length_le
    {cursors : List Cursor}
    (comesBy : ComesBy raw kind scanned position span cursor)
    (chain :
      (cursor :: cursors).IsChain
        (Advances scanned position span.stop)) :
    cursor.offset + cursors.length ≤ span.stop := by
  induction cursors generalizing cursor with
  | nil =>
      obtain ⟨-, -, front, back, atTop⟩ := comesBy.exists_atTop
      simpa using atTop.inside.1
  | cons next cursors inductionHypothesis =>
      obtain ⟨advances, later⟩ := List.isChain_cons_cons.mp chain
      have behind :=
        inductionHypothesis (comesBy.tail advances) later
      have moved := (comesBy.moves advances).1
      rw [List.length_cons]
      omega

end Progress

/-- Wherever the reader cuts a text, it does so between two characters and inside
of the text.  Each suffix that it reads moves the cursor on to a later place
between two characters of the segment, so a segment is read in no more steps
than it has bytes. -/
theorem cuts_between_characters_and_moves_on :
    (∀ raw kind whole span part,
      Cuts raw kind whole span part →
        span.start ≤ span.stop ∧
          span.stop ≤ byteSize whole ∧
          IsBoundary whole span.start ∧
          IsBoundary whole span.stop ∧
          slice whole span = part) ∧
      (∀ raw kind scanned position span cursor next,
        ComesBy raw kind scanned position span cursor →
          Advances scanned position span.stop cursor next →
            cursor.offset < next.offset ∧
              next.offset ≤ span.stop ∧
              IsBoundary scanned.text next.offset) ∧
      ∀ raw kind scanned position span cursor cursors,
        ComesBy raw kind scanned position span cursor →
          (cursor :: cursors).IsChain
              (Advances scanned position span.stop) →
            cursor.offset + cursors.length ≤ span.stop := by
  refine ⟨?_, ?_, ?_⟩
  · intro raw kind whole span part cuts
    obtain ⟨forward, inside, start, stop⟩ := cuts.covers.between
    exact ⟨forward, inside, start, stop, cuts.covers.slice_eq⟩
  · intro raw kind scanned position span cursor next comesBy advances
    exact comesBy.moves advances
  · intro raw kind scanned position span cursor cursors comesBy chain
    exact comesBy.length_le chain

/-- A group of letters of two bytes between two arities. -/
theorem group_of_long_letters_cut :
    let raw := " \u00dcb\x601<\u00e9,\u00df>\x60\x602(\u00f1)\t"
    let text := trim raw.toList
    let span : Span := ⟨0, 15⟩
    let group : Cursor :=
      ⟨{ typeArity := true }, 5, "<\u00e9,\u00df>\x60\x602".toList⟩
    let arity : Cursor :=
      ⟨{ typeArity := true, generic := true }, 12, "\x60\x602".toList⟩
    (Cuts raw .method text ⟨6, 11⟩ "\u00e9,\u00df".toList ∧
        IsBoundary text 6 ∧ IsBoundary text 11 ∧
        slice text ⟨6, 11⟩ = "\u00e9,\u00df".toList) ∧
      ComesBy raw .method (marked text) .callableMember span group ∧
      Advances (marked text) .callableMember span.stop group arity ∧
      IsBoundary text arity.offset := by
  intro raw text span group arity
  have scanned : scan text = .ok (marked text) := by
    decide +kernel
  have segment :
      ∃ nameEnd,
        FindsName raw .method (marked text) nameEnd ∧
          span ∈ segmentSpans (marked text) nameEnd.stop :=
    ⟨⟨15, some ["\u00f1"]⟩, ⟨scanned, by decide +kernel⟩,
      by decide +kernel⟩
  have first :
      Advances (marked text) .callableMember span.stop
        (suffixStart (marked text) span) group :=
    ⟨'\x60', "1<\u00e9,\u00df>\x60\x602".toList, by decide +kernel,
      by decide +kernel⟩
  have second :
      Advances (marked text) .callableMember span.stop group arity :=
    ⟨'<', "\u00e9,\u00df>\x60\x602".toList, by decide +kernel,
      by decide +kernel⟩
  have comesBy :
      ComesBy raw .method (marked text) .callableMember span group :=
    ⟨segment, .single first⟩
  have cut :
      Cuts raw .method text ⟨6, 11⟩ "\u00e9,\u00df".toList :=
    .group comesBy rfl (by decide +kernel)
  obtain ⟨between, moves, -⟩ := cuts_between_characters_and_moves_on
  obtain ⟨-, -, start, stop, part⟩ := between _ _ _ _ _ cut
  obtain ⟨-, -, boundary⟩ := moves _ _ _ _ _ _ _ comesBy second
  exact ⟨⟨cut, start, stop, part⟩, comesBy, second, boundary⟩

end ApiIndex.Signature

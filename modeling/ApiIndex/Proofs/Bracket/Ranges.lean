import ApiIndex.Proofs.Bracket.Queries
import ApiIndex.Proofs.Bracket.Verdict
import Mathlib.Order.Bounds.Basic

namespace ApiIndex.Bracket

open ApiIndex.Text

/-!
# Questions about a span

The marks of a text are in text order, so an offset divides them into those
before it and the others, and the marks inside a span stand between two indices.
Searching these marks from either end gives the least and the greatest offset at
which a character stands at top level inside the span, and cutting the span at
them gives one piece more than there are such offsets.

The offsets are described by the text alone, and a span need not begin or end
between two characters.
-/

/-- A character stands at an offset at top level.  What is before a separator or
an opener balances there, and what is before a closer does together with the
closer. -/
inductive TopAt
    (text : List Char)
    (character : Char)
    (offset : Nat) : Prop where
  | leading
      (stands : StandsAt text offset character)
      (leads :
        isSeparator character = true ∨
          ∃ family : Family, character = family.opener)
      (balanced : Balanced (takeBytes offset text))
  | closing
      (stands : StandsAt text offset character)
      (closes : ∃ family : Family, character = family.closer)
      (balanced : Balanced (takeBytes offset text ++ [character]))

/-- The offsets inside a span at which a character stands at top level. -/
def topOffsets
    (text : List Char)
    (character : Char)
    (span : Span) :
    Set Nat :=
  {offset |
    TopAt text character offset ∧
      span.start ≤ offset ∧ offset < span.stop}

/-- A span is cut into pieces at the given offsets, each of which is one byte
wide and belongs to no piece. -/
structure CutAt
    (offsets : Set Nat)
    (span : Span)
    (pieces : List Span) : Prop where
  start : pieces.head?.map Span.start = some span.start
  stop : pieces.getLast?.map Span.stop = some span.stop
  adjacent :
    pieces.IsChain fun piece next => next.start = piece.stop + 1
  forward : ∀ piece ∈ pieces, piece.start ≤ piece.stop
  cuts :
    ∀ offset,
      offset ∈ pieces.dropLast.map Span.stop ↔ offset ∈ offsets

/-- What a scan answers about a character inside a span is what looking through
the text again gives. -/
structure AnswersByRescan
    (text : List Char)
    (scanned : Scan)
    (character : Char)
    (span : Span) : Prop where
  first :
    ∀ offset,
      scanned.findTop? character span = some offset ↔
        IsLeast (topOffsets text character span) offset
  last :
    ∀ offset,
      scanned.findLastTop? character span = some offset ↔
        IsGreatest (topOffsets text character span) offset
  noFirst :
    scanned.findTop? character span = none ↔
      topOffsets text character span = ∅
  noLast :
    scanned.findLastTop? character span = none ↔
      topOffsets text character span = ∅
  insignificant :
    character ∉ significant →
      scanned.findTop? character span = none ∧
        scanned.findLastTop? character span = none
  pieces :
    CutAt (topOffsets text character span) span
      (scanned.splitTop character span)
  /-- An offset divides the marks at its index. -/
  divided :
    ∀ (offset index : Nat) (mark : Mark),
      scanned.marks[index]? = some mark →
        (index < scanned.markIndex offset ↔ mark.offset < offset)
  /-- The indices between which the marks of the span are taken are in order and
  none of them is out of bounds. -/
  inBounds :
    scanned.markIndex span.start ≤ scanned.markIndex span.stop ∧
      scanned.markIndex span.stop ≤ scanned.marks.length

section Indices

variable {scanned : Scan} {span : Span} {offset : Nat} {mark : Mark}

/-- In text order, the marks in front of the index of an offset are those that
stand before the offset. -/
theorem Scan.lt_markIndex_iff
    {index : Nat}
    (ordered :
      scanned.marks.Pairwise fun mark later => mark.offset < later.offset)
    (isMark : scanned.marks[index]? = some mark) :
    index < scanned.markIndex offset ↔ mark.offset < offset := by
  obtain ⟨inside, rfl⟩ := List.getElem?_eq_some_iff.mp isMark
  constructor
  · intro inFront
    simpa using List.not_of_lt_findIdx inFront
  · intro isBefore
    apply List.lt_findIdx_of_not inside
    intro other isEarlier
    have notBehind :
        scanned.marks[other].offset ≤ scanned.marks[index].offset := by
      rcases Nat.lt_or_eq_of_le isEarlier with inFront | rfl
      · exact Nat.le_of_lt
          (List.pairwise_iff_getElem.mp ordered _ _ _ inside inFront)
      · exact Nat.le_refl _
    simpa using Nat.lt_of_le_of_lt notBehind isBefore

/-- The index of a later offset is no smaller, and none is out of bounds. -/
theorem Scan.markIndex_le
    (scanned : Scan)
    {earlier later : Nat}
    (inOrder : earlier ≤ later) :
    scanned.markIndex earlier ≤ scanned.markIndex later ∧
      scanned.markIndex later ≤ scanned.marks.length := by
  refine ⟨List.findIdx_le_findIdx ?_, List.findIdx_le_length⟩
  intro mark _ isBehind
  simp only [decide_eq_true_eq] at isBehind ⊢
  exact Nat.le_trans inOrder isBehind

/-- The marks between the two indices of a span are those inside the span. -/
theorem Scan.mem_marksIn_iff
    (ordered :
      scanned.marks.Pairwise fun mark later =>
        mark.offset < later.offset) :
    mark ∈ scanned.marksIn span ↔
      mark ∈ scanned.marks ∧
        span.start ≤ mark.offset ∧ mark.offset < span.stop := by
  simp only [marksIn, List.mem_iff_getElem?, List.getElem?_drop,
    List.getElem?_take, Option.ite_none_right_eq_some]
  constructor
  · rintro ⟨index, beforeStop, isMark⟩
    have fromStart :
        ¬ scanned.markIndex span.start + index <
          scanned.markIndex span.start := by
      omega
    rw [lt_markIndex_iff ordered isMark] at beforeStop fromStart
    exact ⟨⟨_, isMark⟩, Nat.le_of_not_lt fromStart, beforeStop⟩
  · rintro ⟨⟨index, isMark⟩, fromStart, beforeStop⟩
    rw [← lt_markIndex_iff ordered isMark] at beforeStop
    rw [← Nat.not_lt, ← lt_markIndex_iff ordered isMark,
      Nat.not_lt] at fromStart
    refine ⟨index - scanned.markIndex span.start, ?_⟩
    rw [Nat.add_sub_cancel' fromStart]
    exact ⟨beforeStop, isMark⟩

end Indices

section TopLevel

variable {text : List Char} {character : Char} {offset : Nat}

/-- A text that closes no bracket too early balances if it closes all it
opens. -/
theorem balanced_iff_level
    (covered : ∀ family, Covered family text) :
    Balanced text ↔ Level text :=
  ⟨Balanced.level, fun level family => ⟨covered family, level family⟩⟩

/-- A character that stands at top level stands in the text. -/
theorem TopAt.stands
    (topAt : TopAt text character offset) :
    StandsAt text offset character := by
  cases topAt with
  | leading stands _ _ =>
      exact stands
  | closing stands _ _ =>
      exact stands

/-- Only brackets and separators stand at top level. -/
theorem TopAt.significant
    (topAt : TopAt text character offset) :
    character ∈ significant := by
  cases topAt with
  | leading stands leads balanced =>
      rcases leads with separates | ⟨family, rfl⟩
      · simp only [isSeparator, Bool.or_eq_true, beq_iff_eq] at separates
        rcases separates with (rfl | rfl) | rfl <;> decide
      · cases family <;> decide
  | closing stands closes balanced =>
      obtain ⟨family, rfl⟩ := closes
      cases family <;> decide

/-- What is marked takes one byte. -/
theorem utf8Size_of_significant
    (isSignificant : character ∈ Bracket.significant) :
    character.utf8Size = 1 := by
  simp only [Bracket.significant, List.mem_cons, List.not_mem_nil,
    or_false] at isSignificant
  rcases isSignificant with
      rfl | rfl | rfl | rfl | rfl | rfl | rfl | rfl | rfl | rfl | rfl <;>
    decide

/-- The mark of a character is at top level where the character is. -/
theorem isTopLevel_iff_topAt
    {front back : List Char}
    {mark : Mark}
    (balanced : Balanced (front ++ character :: back))
    (isMark : markAt? front character = some mark) :
    mark.isTopLevel character = true ↔
      TopAt (front ++ character :: back) character (byteSize front) := by
  have stands :
      StandsAt (front ++ character :: back) (byteSize front) character :=
    ⟨front, back, rfl, rfl⟩
  have before :
      takeBytes (byteSize front) (front ++ character :: back) = front :=
    takeBytes_byteSize_append front (character :: back)
  rw [Mark.isTopLevel, (eq_of_markAt? isMark).2, BEq.rfl, Bool.true_and]
  cases closes : Family.ofCloser? character with
  | some family =>
      -- The depth of a closer counts the closer.
      have covered : ∀ other, Covered other (front ++ [character]) := by
        intro other
        have whole := (balanced other).covered
        rw [List.append_cons] at whole
        exact whole.of_append
      obtain rfl := Family.eq_closer_of_ofCloser? closes
      rw [markAt?_closer] at isMark
      cases isMark
      rw [Depth.isTop_behind_iff covered, ← balanced_iff_level covered]
      constructor
      · intro isBalanced
        exact .closing stands ⟨family, rfl⟩ (before.symm ▸ isBalanced)
      · intro topAt
        cases topAt with
        | leading _ leads _ =>
            rcases leads with separates | ⟨opened, isOpener⟩
            · cases family <;> contradiction
            · exact absurd isOpener (by simp)
        | closing _ _ isBalanced =>
            exact before ▸ isBalanced
  | none =>
      have covered : ∀ other, Covered other front :=
        fun other => (balanced other).covered.of_append
      simp only [markAt?, closes, Option.isSome_none, Bool.false_eq_true,
        ↓reduceIte, Option.ite_none_right_eq_some,
        Option.some.injEq] at isMark
      obtain ⟨opensOrSeparates, rfl⟩ := isMark
      rw [Depth.isTop_behind_iff covered, ← balanced_iff_level covered]
      constructor
      · intro isBalanced
        refine .leading stands ?_ (before.symm ▸ isBalanced)
        rcases opensOrSeparates with opens | separates
        · obtain ⟨family, isFamily⟩ := Option.isSome_iff_exists.mp opens
          exact .inr ⟨family, Family.eq_opener_of_ofOpener? isFamily⟩
        · exact .inl separates
      · intro topAt
        cases topAt with
        | leading _ _ isBalanced =>
            exact before ▸ isBalanced
        | closing _ isCloser _ =>
            obtain ⟨family, rfl⟩ := isCloser
            simp at closes

/-- A balanced text has a mark at top level exactly where a character stands at
top level. -/
theorem topAt_iff_exists_mark
    (balanced : Balanced text) :
    TopAt text character offset ↔
      ∃ mark ∈ marksBehind [] text,
        mark.isTopLevel character = true ∧ mark.offset = offset := by
  constructor
  · intro topAt
    obtain ⟨front, back, rfl, rfl⟩ := topAt.stands
    obtain ⟨mark, isMark⟩ :=
      Option.isSome_iff_exists.mp
        ((@isSome_markAt?_iff front character).mpr topAt.significant)
    refine ⟨mark, ?_, ?_, (eq_of_markAt? isMark).1⟩
    · exact mem_marksBehind_iff.mpr ⟨front, character, back, rfl, isMark⟩
    · exact (isTopLevel_iff_topAt balanced isMark).mpr topAt
  · rintro ⟨mark, member, isTop, rfl⟩
    obtain ⟨front, found, back, rfl, isMark⟩ :=
      mem_marksBehind_iff.mp member
    obtain ⟨atFront, isFound⟩ := eq_of_markAt? isMark
    obtain rfl : found = character := by
      rw [Mark.isTopLevel, Bool.and_eq_true, beq_iff_eq] at isTop
      exact isFound.symm.trans isTop.1
    rw [atFront]
    exact (isTopLevel_iff_topAt balanced isMark).mp isTop

/-- The marks inside a span that are at top level are the offsets at which a
character stands at top level there. -/
theorem mem_topOffsets_iff
    {span : Span}
    (balanced : Balanced text) :
    offset ∈ topOffsets text character span ↔
      ∃ mark ∈ (marked text).marksIn span,
        mark.isTopLevel character = true ∧ mark.offset = offset := by
  have insideIff
      (mark : Mark) :
      mark ∈ (marked text).marksIn span ↔
        mark ∈ marksBehind [] text ∧
          span.start ≤ mark.offset ∧ mark.offset < span.stop :=
    Scan.mem_marksIn_iff (marksBehind_ordered [] text)
  simp only [topOffsets, Set.mem_ofPred_eq,
    topAt_iff_exists_mark balanced, insideIff]
  constructor
  · rintro ⟨⟨mark, member, isTop, rfl⟩, inside⟩
    exact ⟨mark, ⟨member, inside⟩, isTop, rfl⟩
  · rintro ⟨mark, ⟨member, inside⟩, isTop, rfl⟩
    exact ⟨⟨mark, member, isTop, rfl⟩, inside⟩

/-- The marks inside a span are in text order. -/
theorem marksIn_marked_ordered
    (text : List Char)
    (span : Span) :
    ((marked text).marksIn span).Pairwise
      fun mark later => mark.offset < later.offset :=
  (marksBehind_ordered [] text).sublist
    ((List.drop_sublist _ _).trans (List.take_sublist _ _))

/-- The marks before one of the marks inside a span are those inside the span
up to that mark. -/
theorem marksIn_of_append
    {span : Span}
    {mark : Mark}
    {earlier later : List Mark}
    (shape : (marked text).marksIn span = earlier ++ mark :: later) :
    (marked text).marksIn ⟨span.start, mark.offset⟩ = earlier := by
  have inside
      (other : Mark)
      (span : Span) :
      other ∈ (marked text).marksIn span ↔
        other ∈ (marked text).marks ∧
          span.start ≤ other.offset ∧ other.offset < span.stop :=
    Scan.mem_marksIn_iff (marksBehind_ordered [] text)
  have markInside := (inside mark span).mp (by simp [shape])
  have ordered := marksIn_marked_ordered text span
  rw [shape, List.pairwise_append, List.pairwise_cons] at ordered
  obtain ⟨earlierOrdered, ⟨isFirst, -⟩, apart⟩ := ordered
  apply eq_of_mem_iff_of_ordered (marksIn_marked_ordered _ _)
    earlierOrdered
  intro other
  constructor
  · intro member
    obtain ⟨isMark, fromStart, beforeMark⟩ := (inside _ _).mp member
    have inSpan : other ∈ earlier ++ mark :: later := by
      rw [← shape, inside]
      exact ⟨isMark, fromStart, Nat.lt_trans beforeMark markInside.2.2⟩
    rcases List.mem_append.mp inSpan with isEarlier | isHere
    · exact isEarlier
    · rcases List.mem_cons.mp isHere with rfl | isLater
      · exact absurd beforeMark (Nat.lt_irrefl _)
      · exact absurd beforeMark (Nat.lt_asymm (isFirst _ isLater))
  · intro member
    have inSpan : other ∈ (marked text).marksIn span := by
      rw [shape]
      exact List.mem_append_left _ member
    obtain ⟨isMark, fromStart, -⟩ := (inside _ _).mp inSpan
    exact (inside _ _).mpr
      ⟨isMark, fromStart, apart other member mark (by simp)⟩

end TopLevel

section Search

variable
  {text : List Char}
  {character : Char}
  {span : Span}
  {offset : Nat}

/-- Searching marks whose offsets are in some order finds the accepted mark that
comes first. -/
theorem map_offset_find?_eq_some_iff
    {marks : List Mark}
    {accept : Mark → Bool}
    (inFront : Nat → Nat → Prop)
    (asymmetric :
      ∀ first second, inFront first second → ¬ inFront second first)
    (ordered :
      marks.Pairwise fun mark later =>
        inFront mark.offset later.offset) :
    (marks.find? accept).map (·.offset) = some offset ↔
      (∃ mark ∈ marks, accept mark = true ∧ mark.offset = offset) ∧
        ∀ mark ∈ marks,
          accept mark = true →
            mark.offset = offset ∨ inFront offset mark.offset := by
  induction marks with
  | nil =>
      simp
  | cons mark rest inductionHypothesis =>
      obtain ⟨isFirst, restOrdered⟩ := List.pairwise_cons.mp ordered
      cases accepted : accept mark with
      | false =>
          simpa [accepted] using inductionHypothesis restOrdered
      | true =>
          rw [List.find?_cons_of_pos accepted, Option.map_some,
            Option.some.injEq]
          constructor
          · rintro rfl
            refine ⟨⟨mark, by simp, accepted, rfl⟩, ?_⟩
            intro other member _
            rcases List.mem_cons.mp member with rfl | isLater
            · exact .inl rfl
            · exact .inr (isFirst other isLater)
          · rintro ⟨⟨other, member, _, rfl⟩, allBehind⟩
            rcases List.mem_cons.mp member with rfl | isLater
            · rfl
            · rcases allBehind mark (by simp) accepted with same | behind
              · exact same
              · exact absurd behind
                  (asymmetric _ _ (isFirst other isLater))

/-- The first occurrence that is found in a span is the least one. -/
theorem findTop?_eq_some_iff
    (balanced : Balanced text) :
    (marked text).findTop? character span = some offset ↔
      IsLeast (topOffsets text character span) offset := by
  rw [Scan.findTop?,
    map_offset_find?_eq_some_iff (· < ·) (fun _ _ => Nat.lt_asymm)
      (marksIn_marked_ordered text span),
    ← mem_topOffsets_iff balanced]
  refine and_congr_right fun _ => ?_
  constructor
  · intro allBehind other isOther
    obtain ⟨mark, member, isTop, rfl⟩ :=
      (mem_topOffsets_iff balanced).mp isOther
    rcases allBehind mark member isTop with same | behind
    · exact Nat.le_of_eq same.symm
    · exact Nat.le_of_lt behind
  · intro least mark member isTop
    have notBefore : offset ≤ mark.offset :=
      least ((mem_topOffsets_iff balanced).mpr ⟨mark, member, isTop, rfl⟩)
    exact (Nat.eq_or_lt_of_le notBefore).imp Eq.symm id

/-- The last occurrence that is found in a span is the greatest one. -/
theorem findLastTop?_eq_some_iff
    (balanced : Balanced text) :
    (marked text).findLastTop? character span = some offset ↔
      IsGreatest (topOffsets text character span) offset := by
  have ordered :
      ((marked text).marksIn span).reverse.Pairwise
        fun mark later => mark.offset > later.offset :=
    List.pairwise_reverse.mpr (marksIn_marked_ordered text span)
  rw [Scan.findLastTop?,
    map_offset_find?_eq_some_iff (· > ·) (fun _ _ => Nat.lt_asymm)
      ordered]
  simp only [List.mem_reverse]
  rw [← mem_topOffsets_iff balanced]
  refine and_congr_right fun _ => ?_
  constructor
  · intro allBefore other isOther
    obtain ⟨mark, member, isTop, rfl⟩ :=
      (mem_topOffsets_iff balanced).mp isOther
    rcases allBefore mark member isTop with same | before
    · exact Nat.le_of_eq same
    · exact Nat.le_of_lt before
  · intro greatest mark member isTop
    have notBehind : mark.offset ≤ offset :=
      greatest
        ((mem_topOffsets_iff balanced).mpr ⟨mark, member, isTop, rfl⟩)
    exact Nat.eq_or_lt_of_le notBehind

/-- No mark in a span is at top level exactly if the character stands nowhere at
top level there. -/
private theorem no_isTopLevel_iff
    (balanced : Balanced text) :
    (∀ mark ∈ (marked text).marksIn span,
        ¬ mark.isTopLevel character = true) ↔
      topOffsets text character span = ∅ := by
  rw [Set.eq_empty_iff_forall_notMem]
  constructor
  · intro noneTop offset isTop
    obtain ⟨mark, member, here, -⟩ :=
      (mem_topOffsets_iff balanced).mp isTop
    exact noneTop mark member here
  · intro nowhere mark member isTop
    exact nowhere mark.offset
      ((mem_topOffsets_iff balanced).mpr ⟨mark, member, isTop, rfl⟩)

/-- No first occurrence is found in a span exactly if there is none. -/
theorem findTop?_eq_none_iff
    (balanced : Balanced text) :
    (marked text).findTop? character span = none ↔
      topOffsets text character span = ∅ := by
  rw [Scan.findTop?, Option.map_eq_none_iff, List.find?_eq_none]
  exact no_isTopLevel_iff balanced

/-- No last occurrence is found in a span exactly if there is none. -/
theorem findLastTop?_eq_none_iff
    (balanced : Balanced text) :
    (marked text).findLastTop? character span = none ↔
      topOffsets text character span = ∅ := by
  rw [Scan.findLastTop?, Option.map_eq_none_iff, List.find?_eq_none]
  simpa only [List.mem_reverse] using no_isTopLevel_iff balanced

/-- Nothing but brackets and separators stands at top level anywhere. -/
theorem topOffsets_eq_empty
    (insignificant : character ∉ significant) :
    topOffsets text character span = ∅ := by
  rw [Set.eq_empty_iff_forall_notMem]
  exact fun _ isTop => insignificant isTop.1.significant

end Search

section Cutting

variable {separator : Char} {start stop : Nat} {marks : List Mark}

/-- A stretch that is not cut is one piece. -/
theorem CutAt.whole
    (forward : start ≤ stop) :
    CutAt ∅ ⟨start, stop⟩ [⟨start, stop⟩] where
  start := rfl
  stop := rfl
  adjacent := .singleton _
  forward := by
    simpa using forward
  cuts := by
    simp

/-- A cut in front of all others gives one more piece. -/
theorem CutAt.cons
    {offsets : Set Nat}
    {cut : Nat}
    {pieces : List Span}
    (forward : start ≤ cut)
    (isCut : CutAt offsets ⟨cut + 1, stop⟩ pieces) :
    CutAt (insert cut offsets) ⟨start, stop⟩ (⟨start, cut⟩ :: pieces) := by
  obtain ⟨first, last, adjacent, inOrder, cuts⟩ := isCut
  cases pieces with
  | nil =>
      simp at first
  | cons piece pieces =>
      exact {
        start := rfl
        stop := by
          simpa using last
        adjacent := by
          refine List.isChain_cons_cons.mpr ⟨?_, adjacent⟩
          simpa using first
        forward := by
          rw [List.forall_mem_cons]
          exact ⟨forward, inOrder⟩
        cuts := by
          intro offset
          rw [List.dropLast_cons_of_ne_nil (by simp), List.map_cons,
            List.mem_cons, cuts offset, Set.mem_insert_iff]
      }

/-- Cutting at marks that are in order cuts at the offsets of those at top
level. -/
theorem cutAt_piecesFrom
    (ordered :
      marks.Pairwise fun mark later => mark.offset < later.offset)
    (inside :
      ∀ mark ∈ marks, start ≤ mark.offset ∧ mark.offset < stop)
    (oneByte :
      ∀ mark ∈ marks,
        mark.isTopLevel separator = true → separator.utf8Size = 1)
    (forward : start ≤ stop) :
    CutAt
      {offset |
        ∃ mark ∈ marks,
          mark.isTopLevel separator = true ∧ mark.offset = offset}
      ⟨start, stop⟩
      (Scan.piecesFrom separator stop start marks) := by
  induction marks generalizing start with
  | nil =>
      simpa [Scan.piecesFrom] using CutAt.whole forward
  | cons mark rest inductionHypothesis =>
      obtain ⟨isFirst, restOrdered⟩ := List.pairwise_cons.mp ordered
      rw [List.forall_mem_cons] at inside oneByte
      rw [Scan.piecesFrom]
      split
      · next isTop =>
          have behind :=
            inductionHypothesis restOrdered
              (fun other member =>
                ⟨isFirst other member, (inside.2 other member).2⟩)
              oneByte.2 inside.1.2
          rw [oneByte.1 isTop]
          have cut := behind.cons inside.1.1
          refine ⟨cut.start, cut.stop, cut.adjacent, cut.forward, ?_⟩
          intro offset
          rw [cut.cuts, Set.mem_insert_iff]
          simp only [Set.mem_ofPred_eq, List.exists_mem_cons_iff, isTop,
            true_and, @eq_comm _ offset]
      · next notTop =>
          have uncut :=
            inductionHypothesis restOrdered inside.2 oneByte.2 forward
          simpa [notTop] using uncut

/-- The pieces of a span lie between the offsets at which the separator stands
at top level. -/
theorem cutAt_splitTop
    {text : List Char}
    {span : Span}
    (balanced : Balanced text)
    (forward : span.start ≤ span.stop) :
    CutAt (topOffsets text separator span) span
      ((marked text).splitTop separator span) := by
  have inside :
      ∀ mark ∈ (marked text).marksIn span,
        span.start ≤ mark.offset ∧ mark.offset < span.stop :=
    fun _ member =>
      ((Scan.mem_marksIn_iff (marksBehind_ordered [] text)).mp member).2
  have oneByte :
      ∀ mark ∈ (marked text).marksIn span,
        mark.isTopLevel separator = true → separator.utf8Size = 1 := by
    intro mark member isTop
    have topAt :=
      ((mem_topOffsets_iff balanced).mpr ⟨mark, member, isTop, rfl⟩).1
    exact utf8Size_of_significant topAt.significant
  have same :
      topOffsets text separator span =
        {offset |
          ∃ mark ∈ (marked text).marksIn span,
            mark.isTopLevel separator = true ∧ mark.offset = offset} :=
    Set.ext fun _ => mem_topOffsets_iff balanced
  rw [same]
  exact cutAt_piecesFrom (marksIn_marked_ordered text span) inside oneByte
    forward

/-- A mark at top level cuts what is before it from what is behind it. -/
private theorem piecesFrom_append_cons
    {mark : Mark}
    {earlier later : List Mark}
    (isTop : mark.isTopLevel separator = true) :
    Scan.piecesFrom separator stop start (earlier ++ mark :: later) =
      Scan.piecesFrom separator mark.offset start earlier ++
        Scan.piecesFrom separator stop
          (mark.offset + separator.utf8Size) later := by
  induction earlier generalizing start with
  | nil =>
      simp [Scan.piecesFrom, isTop]
  | cons other rest inductionHypothesis =>
      simp only [List.cons_append, Scan.piecesFrom, inductionHypothesis]
      split <;> simp

/-- The last occurrence of a separator cuts the last piece off. -/
theorem splitTop_of_findLastTop?
    {text : List Char}
    {last : Nat}
    (found :
      (marked text).findLastTop? separator ⟨start, stop⟩ = some last) :
    (marked text).splitTop separator ⟨start, stop⟩ =
      (marked text).splitTop separator ⟨start, last⟩ ++
        [⟨last + separator.utf8Size, stop⟩] := by
  obtain ⟨mark, isLast, rfl⟩ := Option.map_eq_some_iff.mp found
  obtain ⟨isTop, behind, before, reversed, noneTop⟩ :=
    List.find?_eq_some_iff_append.mp isLast
  have shape :
      (marked text).marksIn ⟨start, stop⟩ =
        before.reverse ++ mark :: behind.reverse := by
    simpa using congrArg List.reverse reversed
  have uncut :
      ∀ other ∈ behind.reverse, other.isTopLevel separator = false := by
    intro other member
    simpa using noneTop other (List.mem_reverse.mp member)
  rw [Scan.splitTop, Scan.splitTop, shape, marksIn_of_append shape,
    piecesFrom_append_cons isTop, ← List.append_nil behind.reverse,
    piecesFrom_append uncut, Scan.piecesFrom]

/-- Without an occurrence of the separator there is only one piece. -/
theorem splitTop_of_findLastTop?_eq_none
    {text : List Char}
    (noneFound :
      (marked text).findLastTop? separator ⟨start, stop⟩ = none) :
    (marked text).splitTop separator ⟨start, stop⟩ = [⟨start, stop⟩] := by
  have uncut :
      ∀ mark ∈ (marked text).marksIn ⟨start, stop⟩,
        mark.isTopLevel separator = false := by
    rw [Scan.findLastTop?, Option.map_eq_none_iff,
      List.find?_eq_none] at noneFound
    intro mark member
    simpa using noneFound mark (List.mem_reverse.mpr member)
  rw [Scan.splitTop,
    ← List.append_nil ((marked text).marksIn ⟨start, stop⟩),
    piecesFrom_append uncut, Scan.piecesFrom]

end Cutting

/-- A scan of a balanced text answers as looking through the text again
does. -/
theorem answersByRescan_marked
    {text : List Char}
    {span : Span}
    (balanced : Balanced text)
    (character : Char)
    (forward : span.start ≤ span.stop) :
    AnswersByRescan text (marked text) character span where
  first _ := findTop?_eq_some_iff balanced
  last _ := findLastTop?_eq_some_iff balanced
  noFirst := findTop?_eq_none_iff balanced
  noLast := findLastTop?_eq_none_iff balanced
  insignificant notSignificant :=
    have nowhere := topOffsets_eq_empty notSignificant
    ⟨(findTop?_eq_none_iff balanced).mpr nowhere,
      (findLastTop?_eq_none_iff balanced).mpr nowhere⟩
  pieces := cutAt_splitTop balanced forward
  divided _ _ _ := Scan.lt_markIndex_iff (marksBehind_ordered [] text)
  inBounds := (marked text).markIndex_le forward

end ApiIndex.Bracket

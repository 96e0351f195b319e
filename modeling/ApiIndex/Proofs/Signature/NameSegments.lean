import ApiIndex.Proofs.Bracket.Ranges
import ApiIndex.Proofs.Signature.Cursor

namespace ApiIndex.Signature

open ApiIndex.Text
open ApiIndex.Bracket

/-!
# The segments of a name

The reader cuts the member off at the last dot before the argument list, and the
qualifier that is left at its own dots.  The segments it gets in this way are
those between all the dots at top level of the whole name, and in an accepted
text they are the segments of the declaration that the text is written as.
-/

/-- The name of an accepted text, cut at all its dots at top level, has the
segments of a declaration that conforms to the kind.  They are the segments that
the reader checks, those of the qualifier first and the member last. -/
structure CutAtDots
    (kind : Kind)
    (signature : Signature)
    (scanned : Scan)
    (declaration : Declaration) : Prop where
  text : declaration.text = scanned.text
  conforms : declaration.Conforms kind
  shows : declaration.Shows signature
  nameEnd :
    readArguments scanned kind.grammar =
      .ok ⟨byteSize declaration.name, signature.arguments⟩
  spans :
    segmentSpans scanned (byteSize declaration.name) =
      scanned.splitTop '.' ⟨0, byteSize declaration.name⟩
  segments :
    (scanned.splitTop '.' ⟨0, byteSize declaration.name⟩).map
        (slice scanned.text) =
      declaration.qualifier ++ [declaration.member]

/-- Cutting the member off and then dividing the qualifier is dividing the whole
name. -/
theorem segmentSpans_eq_splitTop
    (text : List Char)
    (stop : Nat) :
    segmentSpans (marked text) stop =
      (marked text).splitTop '.' ⟨0, stop⟩ := by
  rw [segmentSpans, divideName]
  cases found : (marked text).findLastTop? '.' ⟨0, stop⟩ with
  | none =>
      simp [splitTop_of_findLastTop?_eq_none found]
  | some dot =>
      simp [splitTop_of_findLastTop? found, show '.'.utf8Size = 1 by decide]

/-- The segments of a declaration are the pieces between the dots of its
name. -/
theorem Declaration.Conforms.pieces_name
    {declaration : Declaration}
    {kind : Kind}
    (conforms : declaration.Conforms kind) :
    Pieces '.' declaration.name
      (declaration.qualifier ++ [declaration.member]) := by
  have nameParts :
      ∀ part ∈ declaration.qualifier ++ [declaration.member],
        NamePart part := by
    intro part member
    rcases List.mem_append.mp member with inQualifier | isMember
    · exact (conforms.qualifier part inQualifier).namePart
    · rw [List.mem_singleton.mp isMember]
      exact conforms.member.namePart
  exact {
    nonempty := by
      simp
    joined := rfl
    level := fun part member => (nameParts part member).balanced.level
    whole := fun part member => (nameParts part member).noDot
  }

/-- Dividing the text of a declaration up to the end of its name gives its
segments. -/
theorem Declaration.Conforms.map_slice_splitTop
    {declaration : Declaration}
    {kind : Kind}
    (conforms : declaration.Conforms kind) :
    ((marked declaration.text).splitTop '.'
        ⟨0, byteSize declaration.name⟩).map (slice declaration.text) =
      declaration.qualifier ++ [declaration.member] := by
  have covered : ∀ family, Covered family declaration.name :=
    fun family => (conforms.name.1 family).covered
  have stands :=
    @splitTop_pieces '.' [] declaration.name
      (listText declaration.interior) _ (by decide) covered .nil
      conforms.pieces_name
  exact map_slice_of_stands stands

/-- What a scan answers about a character inside a span is what looking through
the text again gives.  It finds the least and the greatest offset at which the
character stands at top level there, and cuts the span at all of them, between
indices of marks that are never out of bounds.  The name of an accepted text is
therefore cut into its segments by all the dots that stand at top level. -/
theorem range_answers_agree_with_rescan :
    (∀ text scanned,
      scan text = .ok scanned →
        ∀ (character : Char) (span : Span),
          span.start ≤ span.stop →
            AnswersByRescan text scanned character span) ∧
      ∀ raw kind signature,
        parse raw kind = .ok signature →
          ∃ scanned declaration,
            scan (trim raw.toList) = .ok scanned ∧
              CutAtDots kind signature scanned declaration := by
  constructor
  · intro text scanned succeeds character span forward
    obtain ⟨balanced, rfl⟩ := scan_eq_ok_iff.mp succeeds
    exact answersByRescan_marked balanced character forward
  · intro raw kind signature accepted
    obtain ⟨-, declaration, text, conforms, shows⟩ :=
      (parse_eq_ok_iff raw kind signature).mp accepted
    rw [← text]
    exact ⟨marked declaration.text, declaration,
      scan_eq_ok_iff.mpr ⟨conforms.balanced, rfl⟩,
      rfl, conforms, shows, conforms.readArguments_eq shows,
      segmentSpans_eq_splitTop _ _, conforms.map_slice_splitTop⟩

/-- A span that begins inside of a letter of two bytes and ends behind the text,
and the name of a method with a dot inside of a group. -/
theorem range_answers_of_generic_method :
    let raw := " \u00c9.Pair<A.B>.Of(int)\t"
    let text := trim raw.toList
    (scan text = .ok (marked text) ∧
        AnswersByRescan text (marked text) '.' ⟨1, 99⟩ ∧
        (marked text).splitTop '.' ⟨1, 99⟩ =
          [⟨1, 2⟩, ⟨3, 12⟩, ⟨13, 99⟩]) ∧
      ∃ signature scanned declaration,
        parse raw .method = .ok signature ∧
          CutAtDots .method signature scanned declaration := by
  intro raw text
  have scanned : scan text = .ok (marked text) := by
    decide +kernel
  have cut :
      (marked text).splitTop '.' ⟨1, 99⟩ =
        [⟨1, 2⟩, ⟨3, 12⟩, ⟨13, 99⟩] := by
    decide +kernel
  obtain ⟨answers, segments⟩ := range_answers_agree_with_rescan
  have accepted :
      parse raw .method =
        .ok ⟨raw, some "\u00c9.Pair<A.B>", "Of", some ["int"]⟩ := by
    decide +kernel
  obtain ⟨nameScan, declaration, -, isCut⟩ := segments _ _ _ accepted
  exact ⟨⟨scanned, answers _ _ scanned '.' ⟨1, 99⟩ (by decide), cut⟩,
    _, nameScan, declaration, accepted, isCut⟩

end ApiIndex.Signature

import ApiIndex.Proofs.Signature.Reparse

namespace ApiIndex.Signature

open ApiIndex.Text
open ApiIndex.Bracket

/-!
# Members in front of a dot

A name may be put in front of another one, which turns its member into a
segment of a qualifier.  The member of a plain declaration may stand there
unless it ends in an indexer.  The first indexer that is met in a qualifier is
the cause for which the whole text is rejected.
-/

/-- Whether the last thing in a text is an indexer. -/
def EndsInIndexer
    (text : List Char) :
    Prop :=
  ∃ front interior,
    text = front ++ (Suffix.indexer interior).text ∧ Interior interior

section Segments

variable {text : List Char}

/-- What a qualifier allows is allowed everywhere. -/
theorem Position.allows_of_qualifier
    {suffix : Suffix}
    (allowed : Position.qualifier.Allows suffix)
    (position : Position) :
    position.Allows suffix := by
  cases suffix with
  | typeArity digits =>
      trivial
  | methodArity digits =>
      cases allowed
  | generic family interior =>
      trivial
  | indexer interior =>
      exact absurd rfl allowed

theorem IsSegment.of_qualifier
    (segment : IsSegment .qualifier text)
    (position : Position) :
    IsSegment position text := by
  obtain ⟨identifier, suffixes, shape, isIdentifier, conform, arranged⟩ :=
    segment
  refine ⟨identifier, suffixes, shape, isIdentifier, ?_, arranged⟩
  intro suffix member
  exact ⟨(conform suffix member).1,
    position.allows_of_qualifier (conform suffix member).2⟩

/-- A suffix of a qualifier does not end like an indexer. -/
theorem Suffix.WellFormed.getLast?_ne
    {suffix : Suffix}
    (wellFormed : suffix.WellFormed)
    (allowed : Position.qualifier.Allows suffix) :
    suffix.text.getLast? ≠ some ']' := by
  have notDigit : isAsciiDigit ']' = false := isAsciiDigit_closer .square
  intro isLast
  have member := List.mem_of_getLast? isLast
  cases suffix with
  | typeArity digits =>
      rcases List.mem_cons.mp member with isTick | isDigit
      · exact absurd isTick (by decide)
      · simp [wellFormed.2 _ isDigit] at notDigit
  | methodArity digits =>
      cases allowed
  | generic family interior =>
      rw [Suffix.text, List.getLast?_concat, Option.some.injEq] at isLast
      rcases wellFormed.1 with rfl | rfl
      · exact absurd isLast (by decide)
      · exact absurd isLast (by decide)
  | indexer interior =>
      exact absurd rfl allowed

/-- No segment of a qualifier ends in an indexer. -/
theorem IsSegment.not_endsInIndexer
    (segment : IsSegment .qualifier text) :
    ¬ EndsInIndexer text := by
  rintro ⟨front, interior, shape, -⟩
  have isLast : text.getLast? = some ']' := by
    rw [shape, Suffix.text, ← List.append_assoc, List.getLast?_concat]
  obtain ⟨identifier, suffixes, rfl, isIdentifier, conform, -⟩ := segment
  rcases List.eq_nil_or_concat' suffixes with rfl | ⟨others, last, rfl⟩
  · rw [List.flatMap_nil, List.append_nil] at isLast
    have notInIdentifier := isIdentifier_closer .square
    rw [Family.closer, isIdentifier.characters ']'
      (List.mem_of_getLast? isLast)] at notInIdentifier
    contradiction
  · obtain ⟨wellFormed, allowed⟩ := conform last (by simp)
    obtain ⟨first, rest, textShape, -⟩ := last.exists_text_eq_cons
    rw [List.flatMap_append, List.flatMap_singleton, ← List.append_assoc,
      List.getLast?_append_of_ne_nil _ (by simp [textShape])] at isLast
    exact wellFormed.getLast?_ne allowed isLast

/-- A member without an indexer among its suffixes may stand in a qualifier. -/
theorem isSegment_qualifier_of_no_indexer
    {identifier : List Char}
    {suffixes : List Suffix}
    (isIdentifier : Identifier identifier)
    (conform :
      ∀ suffix ∈ suffixes,
        suffix.WellFormed ∧ Position.member.Allows suffix)
    (noIndexer :
      ∀ suffix ∈ suffixes, ∀ interior, suffix ≠ .indexer interior)
    (arranged : suffixes.Pairwise Suffix.MayPrecede) :
    IsSegment .qualifier
      (identifier ++ suffixes.flatMap Suffix.text) := by
  refine ⟨identifier, suffixes, rfl, isIdentifier, ?_, arranged⟩
  intro suffix member
  obtain ⟨wellFormed, allowed⟩ := conform suffix member
  refine ⟨wellFormed, ?_⟩
  cases suffix with
  | typeArity digits =>
      trivial
  | methodArity digits =>
      cases allowed
  | generic family interior =>
      trivial
  | indexer interior =>
      exact absurd rfl (noIndexer _ member interior)

/-- A member may stand in a qualifier, or it is what may stand there with an
indexer behind it. -/
theorem IsSegment.qualifier_or_indexer
    (segment : IsSegment .member text) :
    IsSegment .qualifier text ∨
      ∃ front interior,
        text = front ++ (Suffix.indexer interior).text ∧
          IsSegment .qualifier front ∧ Interior interior := by
  obtain ⟨identifier, suffixes, rfl, isIdentifier, conform, arranged⟩ :=
    segment
  rcases List.eq_nil_or_concat' suffixes with rfl | ⟨before, last, rfl⟩
  · exact .inl
      (isSegment_qualifier_of_no_indexer isIdentifier (by simp) (by simp)
        .nil)
  · obtain ⟨arrangedBefore, -, beforeLast⟩ :=
      List.pairwise_append.mp arranged
    -- Nothing stands behind an indexer, so only the last suffix may be one.
    have noneBefore :
        ∀ suffix ∈ before, ∀ interior, suffix ≠ .indexer interior := by
      rintro _ member interior rfl
      exact beforeLast _ member last (by simp)
    cases last with
    | indexer interior =>
        refine .inr ⟨identifier ++ before.flatMap Suffix.text, interior,
          by simp, ?_, (conform (.indexer interior) (by simp)).1⟩
        refine isSegment_qualifier_of_no_indexer isIdentifier ?_ noneBefore
          arrangedBefore
        intro suffix member
        exact conform suffix (by simp [member])
    | _ =>
        refine .inl
          (isSegment_qualifier_of_no_indexer isIdentifier conform ?_
            arranged)
        intro suffix member interior
        rcases List.mem_append.mp member with isBefore | isLast
        · exact noneBefore suffix isBefore interior
        · simp [List.mem_singleton.mp isLast]

end Segments

section Reading

/-- No indexer is remembered of suffixes that a qualifier allows. -/
theorem Suffixes.indexer_noteAll
    {seen : Suffixes}
    {suffixes : List Suffix}
    (noneBefore : seen.indexer = false)
    (allowed :
      ∀ suffix ∈ suffixes, Position.qualifier.Allows suffix) :
    (seen.noteAll suffixes).indexer = false := by
  refine List.foldlRecOn (motive := fun noted => noted.indexer = false)
    suffixes Suffixes.note noneBefore ?_
  intro seen noneSeen suffix member
  cases suffix with
  | indexer interior =>
      exact absurd rfl (allowed _ member)
  | _ =>
      exact noneSeen

variable {front interior back : List Char}

/-- An indexer in a qualifier is rejected once its interior has been
checked. -/
theorem readSuffix_of_indexer
    {seen : Suffixes}
    (noneBefore : seen.indexer = false)
    (holds : Interior interior)
    (balanced :
      Balanced (front ++ (Suffix.indexer interior).text ++ back)) :
    readSuffix (marked (front ++ (Suffix.indexer interior).text ++ back))
        .qualifier
        (byteSize (front ++ (Suffix.indexer interior).text))
        ⟨seen, byteSize front, (Suffix.indexer interior).text⟩
        '[' (interior ++ [']']) =
      .error (.indexerNotAllowed (byteSize front)) := by
  have covered : Covered .square front :=
    (balanced .square).covered.of_append.of_append
  have read :=
    @readGroup_eq_of_shape .qualifier seen .square front
      (interior ++ [']']) back interior [] covered
      (holds.balanced .square) rfl
  rw [checkGroup_eq_ok_iff.mpr holds] at read
  simp only [readSuffix, noneBefore, Bool.false_eq_true, ↓reduceIte,
    show '[' ≠ '\x60' by decide,
    show Family.ofOpener? '[' = some .square from rfl]
  exact read

/-- What a segment of a qualifier would be but for an indexer behind it is
rejected where the indexer starts. -/
theorem checkSegment_of_indexer
    {segment : List Char}
    (isSegment : IsSegment .qualifier segment)
    (holds : Interior interior)
    (balanced :
      Balanced
        (front ++ (segment ++ (Suffix.indexer interior).text) ++ back)) :
    checkSegment
        (marked
          (front ++ (segment ++ (Suffix.indexer interior).text) ++ back))
        .qualifier
        ⟨byteSize front,
          byteSize
            (front ++ (segment ++ (Suffix.indexer interior).text))⟩ =
      .error (.indexerNotAllowed (byteSize (front ++ segment))) := by
  obtain ⟨identifier, suffixes, rfl, isIdentifier, conform, arranged⟩ :=
    isSegment
  rw [List.append_assoc identifier] at balanced ⊢
  rw [checkSegment_append isIdentifier]
  · rw [← List.append_assoc front identifier] at balanced ⊢
    rw [readSuffixes_append balanced _ arranged,
      ← List.append_assoc front identifier]
    · rw [← List.append_assoc (front ++ identifier)] at balanced ⊢
      apply readSuffixes_of_error
      apply readSuffix_of_indexer _ holds balanced
      apply Suffixes.indexer_noteAll rfl
      intro suffix member
      exact (conform suffix member).2
    · intro first isFirst
      exact (@head?_flatMap_text [.indexer interior] first
        (by simpa using isFirst)).2
    · intro suffix member
      exact ⟨(conform suffix member).1, (conform suffix member).2,
        Suffixes.admits_initial suffix⟩
  · intro first isFirst
    exact (@head?_flatMap_text (suffixes ++ [.indexer interior]) first
      (by simpa using isFirst)).1

/-- Checking members as segments of a qualifier fails at the first of them that
ends in an indexer. -/
theorem exists_checkSegments_of_indexer
    {text : List Char}
    {spans : List Span}
    {segments : List (List Char)}
    (balanced : Balanced text)
    (stands : List.Forall₂ (Stands text) spans segments)
    (areMembers : ∀ segment ∈ segments, IsSegment .member segment)
    (someIndexer : ∃ segment ∈ segments, EndsInIndexer segment) :
    ∃ offset,
      checkSegments (marked text) .qualifier spans =
        .error (.indexerNotAllowed offset) := by
  induction stands with
  | nil =>
      simp at someIndexer
  | @cons span segment spans segments here later inductionHypothesis =>
      obtain ⟨front, back, rfl, -, rfl⟩ := here
      rw [checkSegments]
      rcases (areMembers segment (by simp)).qualifier_or_indexer with
          isSegment | ⟨name, interior, rfl, isSegment, holds⟩
      · obtain ⟨other, member, ends⟩ := someIndexer
        have isLater : other ∈ segments := by
          rcases List.mem_cons.mp member with rfl | isLater
          · exact absurd ends isSegment.not_endsInIndexer
          · exact isLater
        rw [(checkSegment_eq_ok_iff balanced).mpr isSegment]
        apply inductionHypothesis _ ⟨other, isLater, ends⟩
        intro segment member
        exact areMembers segment (by simp [member])
      · rw [checkSegment_of_indexer isSegment holds balanced]
        exact ⟨_, rfl⟩

/-- A name is rejected for an indexer if its qualifier consists of members of
which one ends in an indexer. -/
theorem exists_parse_of_indexer
    {raw : String}
    {kind : Kind}
    {declaration : Declaration}
    (areMembers :
      ∀ segment ∈ declaration.qualifier, IsSegment .member segment)
    (someIndexer :
      ∃ segment ∈ declaration.qualifier, EndsInIndexer segment)
    (conforms : declaration.MemberConforms kind)
    (written : raw.toList = declaration.name) :
    ∃ offset, parse raw kind = .error ⟨raw, .indexerNotAllowed offset⟩ := by
  obtain ⟨balanced, noParenthesis⟩ :=
    Declaration.balanced_name areMembers conforms
  have trimmed : trim raw.toList = declaration.name := by
    rw [written]
    exact (Declaration.trimmed_name areMembers conforms).trim_eq
  have qualified : declaration.qualifier ≠ [] := by
    obtain ⟨segment, member, -⟩ := someIndexer
    exact List.ne_nil_of_mem member
  have name :
      declaration.name =
        ['.'].intercalate declaration.qualifier ++
          '.' :: declaration.member := by
    rw [declaration.name_eq_nameText, Declaration.qualifierText,
      if_neg qualified, nameText]
  have nonempty : declaration.name ≠ [] := by
    simp [name]
  have scanned := scan_eq_ok_iff.mpr ⟨balanced, rfl⟩
  have read :
      readArguments (marked declaration.name) kind.grammar =
        .ok ⟨byteSize declaration.name, none⟩ :=
    (readArguments_eq_ok_iff balanced).mpr
      ⟨declaration.name, none, by simp [listText], balanced.level,
        .of_not_mem noParenthesis, by simp, .none, rfl⟩
  have level : Level (['.'].intercalate declaration.qualifier) :=
    (intercalate_nameParts fun segment member =>
      (areMembers segment member).namePart).1.level
  have stands :=
    @splitTop_pieces '.' [] (['.'].intercalate declaration.qualifier)
      ('.' :: declaration.member) declaration.qualifier (by decide)
      (fun family => (name ▸ balanced family).covered.of_append) .nil
      (pieces_of_isSegment qualified areMembers)
  have divided :=
    @divideName_eq declaration.member []
      (some (['.'].intercalate declaration.qualifier))
      (by simpa [nameText, ← name] using balanced)
      (by simpa using level) conforms.namePart.noDot
  rw [List.nil_append, ← name] at stands
  simp only [nameText, List.append_nil, ← name] at divided
  obtain ⟨offset, failed⟩ :=
    exists_checkSegments_of_indexer balanced stands areMembers someIndexer
  rw [byteSize_nil] at failed
  refine ⟨offset, ?_⟩
  simp only [parse, readText, trimmed, nonempty, ↓reduceIte, scanned,
    readScanned, read, divided, checkQualifier, failed]

end Reading

end ApiIndex.Signature

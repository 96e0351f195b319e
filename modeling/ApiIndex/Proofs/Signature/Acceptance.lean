import ApiIndex.Proofs.Signature.Arguments
import ApiIndex.Proofs.Signature.Segment

namespace ApiIndex.Signature

open ApiIndex.Text
open ApiIndex.Bracket

/-!
# Declarations are read by their grammar

Reading a text finds the argument list at the first parenthesis at top level,
the member behind the last dot at top level before it, and the segments of the
qualifier between the dots.  In the text of a declaration that conforms to its
kind these stand exactly where the grammar puts them, so reading accepts the
texts of such declarations and gives back their parts.
-/

/-- A name put together from what is before its last dot, if it has one, and
the member. -/
def nameText
    (member : List Char) :
    Option (List Char) →
      List Char
  | none =>
      member
  | some before =>
      before ++ '.' :: member

/-- Two groups of joined pieces are joined by one more separator. -/
theorem intercalate_append
    {separator : List Char}
    {pieces more : List (List Char)}
    (nonempty : pieces ≠ [])
    (moreNonempty : more ≠ []) :
    separator.intercalate (pieces ++ more) =
      separator.intercalate pieces ++ separator ++
        separator.intercalate more := by
  induction pieces with
  | nil =>
      exact (nonempty rfl).elim
  | cons piece pieces inductionHypothesis =>
      cases pieces with
      | nil =>
          rw [List.singleton_append,
            List.intercalate_cons_of_ne_nil moreNonempty,
            List.intercalate_singleton]
      | cons next pieces =>
          have later := inductionHypothesis (by simp)
          simp only [List.cons_append, List.intercalate_cons_cons,
            List.append_assoc] at later ⊢
          rw [later]

namespace Declaration

theorem name_eq_nameText
    (declaration : Declaration) :
    declaration.name =
      nameText declaration.member declaration.qualifierText := by
  obtain ⟨qualifier, member, interior⟩ := declaration
  by_cases unqualified : qualifier = []
  · simp [name, qualifierText, nameText, unqualified]
  · simp [name, qualifierText, nameText, unqualified,
      intercalate_append]

end Declaration

section Name

/-- The segments that spans cover are checked one by one. -/
theorem checkSegments_eq_ok_iff
    {text : List Char}
    {position : Position}
    {spans : List Span}
    {segments : List (List Char)}
    (balanced : Balanced text)
    (stands : List.Forall₂ (Stands text) spans segments) :
    checkSegments (marked text) position spans = .ok () ↔
      ∀ segment ∈ segments, IsSegment position segment := by
  induction stands with
  | nil =>
      simp [checkSegments]
  | @cons span segment spans segments here later inductionHypothesis =>
      obtain ⟨front, back, rfl, -, rfl⟩ := here
      have first :=
        @checkSegment_eq_ok_iff position front segment back balanced
      rw [List.forall_mem_cons, ← inductionHypothesis, ← first,
        checkSegments]
      cases checkSegment (marked (front ++ segment ++ back)) position
          ⟨byteSize front, byteSize (front ++ segment)⟩ with
      | error failure =>
          simp
      | ok checked =>
          simp

/-- Segments are the pieces between the dots that join them. -/
theorem pieces_of_isSegment
    {position : Position}
    {segments : List (List Char)}
    (nonempty : segments ≠ [])
    (areSegments :
      ∀ segment ∈ segments, IsSegment position segment) :
    Pieces '.' (['.'].intercalate segments) segments where
  nonempty := nonempty
  joined := rfl
  level := fun segment member =>
    (areSegments segment member).namePart.balanced.level
  whole := fun segment member =>
    (areSegments segment member).namePart.noDot

/-- A qualifier is checked successfully exactly if it consists of segments of
the grammar. -/
theorem checkQualifier_eq_ok_iff
    {before back : List Char}
    (balanced : Balanced (before ++ back))
    (level : Level before) :
    checkQualifier (marked (before ++ back))
        (some ⟨0, byteSize before⟩) = .ok () ↔
      ∃ segments,
        segments ≠ [] ∧ before = ['.'].intercalate segments ∧
          ∀ segment ∈ segments, IsSegment .qualifier segment := by
  have checked
      {segments : List (List Char)}
      (divided : Pieces '.' before segments) :
      checkQualifier (marked (before ++ back))
          (some ⟨0, byteSize before⟩) = .ok () ↔
        ∀ segment ∈ segments, IsSegment .qualifier segment := by
    have covered : ∀ family, Covered family before :=
      fun family => (balanced family).covered.of_append
    exact checkSegments_eq_ok_iff balanced
      (@splitTop_pieces '.' [] before back segments (by decide)
        covered .nil divided)
  constructor
  · intro accepted
    obtain ⟨segments, divided⟩ :=
      @Pieces.exists_of_level '.' (by decide) _ level
    exact ⟨segments, divided.nonempty, divided.joined,
      (checked divided).mp accepted⟩
  · rintro ⟨segments, nonempty, rfl, areSegments⟩
    exact (checked (pieces_of_isSegment nonempty areSegments)).mpr
      areSegments

theorem isOperatorName_ofList_iff
    {member : List Char} :
    isOperatorName (String.ofList member) = true ↔
      ∃ word ∈ operatorWords, member = ("op_" ++ word).toList := by
  rw [isOperatorName, List.any_eq_true]
  refine exists_congr fun word => and_congr_right fun _ => ?_
  rw [beq_iff_eq]
  constructor
  · intro same
    rw [same, String.toList_ofList]
  · rintro rfl
    rw [String.ofList_toList]

/-- A member is checked successfully exactly if it is the member that the kind
asks for. -/
theorem checkMember_eq_ok_iff
    {kind : Kind}
    {front back : List Char}
    {declaration : Declaration}
    {qualifier : Option Span}
    (balanced : Balanced (front ++ declaration.member ++ back))
    (unqualified :
      qualifier = none ↔ declaration.qualifier = []) :
    checkMember (marked (front ++ declaration.member ++ back))
        kind.grammar qualifier
        ⟨byteSize front, byteSize (front ++ declaration.member)⟩ =
          .ok () ↔
      declaration.MemberConforms kind := by
  have segment
      (position : Position) :=
    @checkSegment_eq_ok_iff position front declaration.member back
      balanced
  have cut := slice_append front declaration.member back
  cases kind with
  | constructor =>
      simp only [Kind.grammar, checkMember, text_marked, cut, ne_eq,
        unqualified, Declaration.MemberConforms]
      split <;> simp_all
  | operator =>
      simp only [Kind.grammar, checkMember, text_marked, cut,
        Declaration.MemberConforms, ← isOperatorName_ofList_iff]
      split <;> simp_all
  | _ =>
      exact segment _

/-- A name is divided at its last dot. -/
theorem divideName_eq
    {member back : List Char}
    {before : Option (List Char)}
    (balanced : Balanced (nameText member before ++ back))
    (level : ∀ text ∈ before, Level text)
    (noDot : NoneTop '.' member) :
    divideName (marked (nameText member before ++ back))
        (byteSize (nameText member before)) =
      match before with
      | none =>
          (none, ⟨0, byteSize member⟩)
      | some text =>
          (some ⟨0, byteSize text⟩,
            ⟨byteSize (text ++ ['.']),
              byteSize (text ++ '.' :: member)⟩) := by
  cases before with
  | none =>
      have noneFound :=
        @findLastTop?_eq_none '.' member back (by decide) balanced noDot
      simp only [nameText, divideName, noneFound]
  | some text =>
      have found :=
        @findLastTop?_eq_some '.' text member back (by decide) balanced
          (level text rfl) noDot
      have behind :
          byteSize text + 1 = byteSize (text ++ ['.']) := by
        simp [show '.'.utf8Size = 1 by decide]
      simp only [nameText, divideName, found, behind]

/-- The two parts of a divided name are what stands around its last dot. -/
theorem slice_divideName
    {member back : List Char}
    {before : Option (List Char)}
    (balanced : Balanced (nameText member before ++ back))
    (level : ∀ text ∈ before, Level text)
    (noDot : NoneTop '.' member) :
    let text := nameText member before ++ back
    let divided :=
      divideName (marked text) (byteSize (nameText member before))
    divided.1.map (slice text) = before ∧
      slice text divided.2 = member := by
  simp only [divideName_eq balanced level noDot]
  cases before with
  | none =>
      exact ⟨rfl, slice_append [] member back⟩
  | some text =>
      have first := slice_append [] text ('.' :: member ++ back)
      have second := slice_append (text ++ ['.']) member back
      refine ⟨?_, ?_⟩
      · simpa [nameText] using first
      · simpa [nameText] using second

/-- A name without a dot is checked successfully exactly if it is the member of
a declaration without a qualifier that conforms to the kind. -/
theorem checkMember_eq_ok_iff_unqualified
    {kind : Kind}
    {member back : List Char}
    {interior : Option (List Char)}
    (balanced : Balanced (member ++ back)) :
    checkMember (marked (member ++ back)) kind.grammar none
        ⟨0, byteSize member⟩ = .ok () ↔
      ∃ qualifier,
        (Declaration.mk qualifier member interior).qualifierText =
            none ∧
          (∀ segment ∈ qualifier, IsSegment .qualifier segment) ∧
          (Declaration.mk qualifier member interior).MemberConforms
            kind := by
  have memberChecked :=
    @checkMember_eq_ok_iff kind [] back ⟨[], member, interior⟩ none
      balanced (by simp)
  refine memberChecked.trans ?_
  constructor
  · intro conforms
    exact ⟨[], rfl, by simp, conforms⟩
  · rintro ⟨qualifier, unqualified, -, conforms⟩
    have isNil : qualifier = [] := by
      simpa [Declaration.qualifierText] using unqualified
    simpa [isNil] using conforms

/-- A name with a dot is checked successfully exactly if a declaration with
that qualifier and member conforms to the kind. -/
theorem checkQualified_eq_ok_iff
    {kind : Kind}
    {text member back : List Char}
    {interior : Option (List Char)}
    (balanced : Balanced (text ++ '.' :: member ++ back))
    (level : Level text) :
    let scanned := marked (text ++ '.' :: member ++ back)
    checkQualifier scanned (some ⟨0, byteSize text⟩) = .ok () ∧
        checkMember scanned kind.grammar (some ⟨0, byteSize text⟩)
            ⟨byteSize (text ++ ['.']),
              byteSize (text ++ '.' :: member)⟩ = .ok () ↔
      ∃ qualifier,
        (Declaration.mk qualifier member interior).qualifierText =
            some text ∧
          (∀ segment ∈ qualifier, IsSegment .qualifier segment) ∧
          (Declaration.mk qualifier member interior).MemberConforms
            kind := by
  intro scanned
  have behindQualifier :
      text ++ '.' :: member ++ back =
        text ++ ('.' :: member ++ back) := by
    simp
  have beforeMember :
      text ++ '.' :: member ++ back =
        text ++ ['.'] ++ member ++ back := by
    simp
  have qualifierChecked :=
    checkQualifier_eq_ok_iff (behindQualifier ▸ balanced) level
  rw [← behindQualifier] at qualifierChecked
  have memberChecked
      {qualifier : List (List Char)}
      (qualified : qualifier ≠ []) :
      checkMember scanned kind.grammar (some ⟨0, byteSize text⟩)
          ⟨byteSize (text ++ ['.']),
            byteSize (text ++ '.' :: member)⟩ = .ok () ↔
        (Declaration.mk qualifier member interior).MemberConforms
          kind := by
    have checked :=
      @checkMember_eq_ok_iff kind (text ++ ['.']) back
        ⟨qualifier, member, interior⟩ (some ⟨0, byteSize text⟩)
        (beforeMember ▸ balanced) (by simpa)
    rw [← beforeMember] at checked
    simpa [scanned] using checked
  rw [qualifierChecked]
  constructor
  · rintro ⟨⟨segments, nonempty, rfl, areSegments⟩, accepted⟩
    exact ⟨segments, by simp [Declaration.qualifierText, nonempty],
      areSegments, (memberChecked nonempty).mp accepted⟩
  · rintro ⟨qualifier, shape, areSegments, conforms⟩
    obtain ⟨qualified, rfl⟩ :
        qualifier ≠ [] ∧ ['.'].intercalate qualifier = text := by
      simpa [Declaration.qualifierText] using shape
    exact ⟨⟨qualifier, qualified, rfl, areSegments⟩,
      (memberChecked qualified).mpr conforms⟩

/-- Both parts of a divided name are checked successfully exactly if they are
those of a declaration that conforms to the kind. -/
theorem checkName_eq_ok_iff
    {kind : Kind}
    {member back : List Char}
    {before interior : Option (List Char)}
    (balanced : Balanced (nameText member before ++ back))
    (level : ∀ text ∈ before, Level text)
    (noDot : NoneTop '.' member) :
    let scanned := marked (nameText member before ++ back)
    let divided :=
      divideName scanned (byteSize (nameText member before))
    checkQualifier scanned divided.1 = .ok () ∧
        checkMember scanned kind.grammar divided.1 divided.2 = .ok () ↔
      ∃ qualifier,
        (Declaration.mk qualifier member interior).qualifierText =
            before ∧
          (∀ segment ∈ qualifier, IsSegment .qualifier segment) ∧
          (Declaration.mk qualifier member interior).MemberConforms
            kind := by
  simp only [divideName_eq balanced level noDot]
  cases before with
  | none =>
      simp only [nameText, checkQualifier, true_and]
      exact checkMember_eq_ok_iff_unqualified balanced
  | some text =>
      exact checkQualified_eq_ok_iff balanced (level text rfl)

end Name

theorem grammar_ne_plain_iff
    {kind : Kind} :
    kind.grammar ≠ .plain ↔
      kind = .method ∨ kind = .constructor ∨ kind = .operator := by
  cases kind <;> simp [Kind.grammar]

/-- Every name whose brackets are closed can be put together from its
parts around the last dot. -/
theorem exists_eq_nameText
    {name : List Char}
    (level : Level name) :
    ∃ member before,
      name = nameText member before ∧
        (∀ text ∈ before, Level text) ∧ NoneTop '.' member := by
  rcases @noneTop_or_exists_last '.' (by decide) name with
      noDot | ⟨text, member, rfl, textLevel, noDot⟩
  · exact ⟨name, none, rfl, by simp, noDot⟩
  · exact ⟨member, some text, rfl, by simpa using textLevel, noDot⟩

/-- Reading a scanned text succeeds if its argument list, its qualifier and its
member are accepted, and puts the signature together from them. -/
theorem readScanned_eq_ok_iff_checks
    {raw : String}
    {grammar : Grammar}
    {scanned : Scan}
    {signature : Signature} :
    readScanned raw grammar scanned = .ok signature ↔
      ∃ nameEnd,
        readArguments scanned grammar = .ok nameEnd ∧
          (checkQualifier scanned
              (divideName scanned nameEnd.stop).1 = .ok () ∧
            checkMember scanned grammar
              (divideName scanned nameEnd.stop).1
              (divideName scanned nameEnd.stop).2 = .ok ()) ∧
          signature.raw = raw ∧
          signature.qualifier =
            ((divideName scanned nameEnd.stop).1.map
              (slice scanned.text)).map String.ofList ∧
          signature.member =
            String.ofList
              (slice scanned.text
                (divideName scanned nameEnd.stop).2) ∧
          signature.arguments = nameEnd.arguments := by
  rw [readScanned]
  cases readArguments scanned grammar with
  | error failure =>
      simp
  | ok nameEnd =>
      simp only [Except.ok.injEq, exists_eq_left']
      cases checkQualifier scanned
          (divideName scanned nameEnd.stop).1 with
      | error failure =>
          simp
      | ok checked =>
          cases checkMember scanned grammar
              (divideName scanned nameEnd.stop).1
              (divideName scanned nameEnd.stop).2 with
          | error failure =>
              simp
          | ok checked =>
              cases signature
              simp [eq_comm, Option.map_map, Function.comp_def]

/-- Parts of a name with dots between them close all their brackets and have
no parenthesis. -/
theorem intercalate_nameParts
    {parts : List (List Char)}
    (areParts : ∀ part ∈ parts, NamePart part) :
    Balanced (['.'].intercalate parts) ∧
      '(' ∉ ['.'].intercalate parts := by
  induction parts with
  | nil =>
      exact ⟨.nil, by simp⟩
  | cons part parts inductionHypothesis =>
      have here := areParts part (by simp)
      have later :=
        inductionHypothesis fun other member =>
          areParts other (by simp [member])
      cases parts with
      | nil =>
          simpa using ⟨here.balanced, here.noParenthesis⟩
      | cons next parts =>
          have dot : Balanced ['.'] :=
            .of_all (by decide)
          rw [List.intercalate_cons_cons]
          refine ⟨(here.balanced.append dot).append later.1, ?_⟩
          simp [here.noParenthesis, later.2]

namespace Declaration

variable {declaration : Declaration} {kind : Kind}

/-- A name of segments and of a member that conforms to a kind has no
parentheses and closes all its brackets. -/
theorem balanced_name
    {position : Position}
    (areSegments :
      ∀ segment ∈ declaration.qualifier, IsSegment position segment)
    (conforms : declaration.MemberConforms kind) :
    Balanced declaration.name ∧ '(' ∉ declaration.name := by
  apply intercalate_nameParts
  intro part member
  rcases List.mem_append.mp member with inQualifier | isMember
  · exact (areSegments part inQualifier).namePart
  · rw [List.mem_singleton.mp isMember]
    exact conforms.namePart

theorem Conforms.name
    (conforms : declaration.Conforms kind) :
    Balanced declaration.name ∧ '(' ∉ declaration.name :=
  balanced_name conforms.qualifier conforms.member

theorem Conforms.balanced
    (conforms : declaration.Conforms kind) :
    Balanced declaration.text := by
  apply conforms.name.1.append
  cases isInterior : declaration.interior with
  | none =>
      exact .nil
  | some interior =>
      exact (conforms.interior interior isInterior).2.wrap .paren

theorem Conforms.level_qualifierText
    (conforms : declaration.Conforms kind) :
    ∀ text ∈ declaration.qualifierText, Level text := by
  have joined :=
    intercalate_nameParts fun part member =>
      (conforms.qualifier part member).namePart
  unfold qualifierText
  split
  · simp
  · simpa using joined.1.level

/-- The name of a conforming declaration ends where the reader of its argument
list finds the end. -/
theorem Conforms.readArguments_eq
    {signature : Signature}
    (conforms : declaration.Conforms kind)
    (shows : declaration.Shows signature) :
    readArguments (marked declaration.text) kind.grammar =
      .ok ⟨byteSize declaration.name, signature.arguments⟩ :=
  (readArguments_eq_ok_iff conforms.balanced).mpr
    ⟨declaration.name, declaration.interior, rfl,
      conforms.name.1.level, .of_not_mem conforms.name.2,
      by simpa [grammar_ne_plain_iff] using conforms.interior,
      shows.arguments, rfl⟩

/-- A conforming declaration has a text. -/
theorem Conforms.text_ne_nil
    (conforms : declaration.Conforms kind) :
    declaration.text ≠ [] := by
  rw [Declaration.text, name_eq_nameText]
  cases declaration.qualifierText with
  | none =>
      simp [nameText, conforms.member.ne_nil]
  | some text =>
      simp [nameText]

end Declaration

/-- Reading a balanced text accepts exactly the texts of the declarations that
conform to the kind, and shows their parts. -/
theorem readScanned_eq_ok_iff
    {raw : String}
    {kind : Kind}
    {text : List Char}
    {signature : Signature}
    (balanced : Balanced text) :
    readScanned raw kind.grammar (marked text) = .ok signature ↔
      signature.raw = raw ∧
        ∃ declaration : Declaration,
          declaration.text = text ∧ declaration.Conforms kind ∧
            declaration.Shows signature := by
  rw [readScanned_eq_ok_iff_checks]
  constructor
  · rintro ⟨⟨stop, arguments⟩, read, checked, isRaw, isQualifier,
      isMember, isArguments⟩
    obtain ⟨name, interior, rfl, level, -, allowed, shown, rfl⟩ :=
      (readArguments_eq_ok_iff balanced).mp read
    obtain ⟨member, before, rfl, beforeLevel, noDot⟩ :=
      exists_eq_nameText level
    obtain ⟨qualifier, rfl, areSegments, memberConforms⟩ :=
      (@checkName_eq_ok_iff kind member (listText interior) before
        interior balanced beforeLevel noDot).mp checked
    have parts := slice_divideName balanced beforeLevel noDot
    rw [text_marked, parts.1] at isQualifier
    rw [text_marked, parts.2] at isMember
    refine ⟨isRaw, ⟨qualifier, member, interior⟩, ?_, ?_, ?_⟩
    · rw [Declaration.text, Declaration.name_eq_nameText]
    · refine ⟨areSegments, memberConforms, ?_⟩
      simpa [grammar_ne_plain_iff] using allowed
    · exact ⟨isQualifier, isMember, isArguments ▸ shown⟩
  · rintro ⟨isRaw, declaration, rfl, conforms, shows⟩
    have name := declaration.name_eq_nameText
    have level := conforms.level_qualifierText
    have noDot := conforms.member.namePart.noDot
    have read := conforms.readArguments_eq shows
    rw [Declaration.text, name] at balanced
    have parts := slice_divideName balanced level noDot
    have checked :=
      (@checkName_eq_ok_iff kind _ _ _ declaration.interior balanced
        level noDot).mpr
        ⟨declaration.qualifier, rfl, conforms.qualifier,
          conforms.member⟩
    refine ⟨_, read, ?_⟩
    rw [Declaration.text, name, text_marked, parts.1, parts.2]
    exact ⟨checked, isRaw, shows.qualifier, shows.member, rfl⟩

/-- Reading succeeds exactly on the texts that, once trimmed, are written as a
declaration conforming to the kind, and then shows the parts of that
declaration. -/
theorem parse_eq_ok_iff
    (raw : String)
    (kind : Kind)
    (signature : Signature) :
    parse raw kind = .ok signature ↔
      signature.raw = raw ∧
        ∃ declaration : Declaration,
          declaration.text = trim raw.toList ∧
            declaration.Conforms kind ∧
            declaration.Shows signature := by
  have readIff :
      parse raw kind = .ok signature ↔
        readText raw kind.grammar = .ok signature := by
    rw [parse]
    cases readText raw kind.grammar <;> simp
  rw [readIff, readText]
  cases scanned : scan (trim raw.toList) with
  | error error =>
      constructor
      · intro read
        split at read <;> simp at read
      · rintro ⟨-, declaration, text, conforms, -⟩
        have accepted :=
          scan_eq_ok_iff.mpr ⟨conforms.balanced, rfl⟩
        simp [text, scanned] at accepted
  | ok marks =>
      obtain ⟨balanced, rfl⟩ := scan_eq_ok_iff.mp scanned
      rw [← readScanned_eq_ok_iff balanced]
      split
      · next isEmpty =>
          simp only [reduceCtorEq, false_iff]
          intro read
          obtain ⟨-, declaration, text, conforms, -⟩ :=
            (readScanned_eq_ok_iff balanced).mp read
          exact conforms.text_ne_nil (text.trans isEmpty)
      · rfl

/-- An operator behind a qualifier, with two arguments. -/
theorem parse_operator_with_arguments :
    let raw := "Foo.op_Addition(a, b)"
    let declaration : Declaration :=
      ⟨["Foo".toList], "op_Addition".toList, some "a, b".toList⟩
    declaration.Conforms .operator ∧
      parse raw .operator =
        .ok ⟨raw, some "Foo", "op_Addition", some ["a", "b"]⟩ := by
  intro raw declaration
  have divided : Pieces ',' "a, b".toList ["a".toList, " b".toList] := {
    nonempty := by
      simp
    joined := by
      decide
    level := by
      intro piece member
      refine (Balanced.of_all ?_).level
      revert piece
      decide
    whole := by
      intro piece member
      apply NoneTop.of_not_mem
      revert piece
      decide
  }
  have noneBlank :
      ∀ piece ∈ ["a".toList, " b".toList],
        ∃ character ∈ piece, isBlank character = false := by
    intro piece member
    rcases List.mem_pair.mp member with rfl | rfl
    · exact ⟨'a', by decide, by decide⟩
    · exact ⟨'b', by decide, by decide⟩
  have conforms : declaration.Conforms .operator := {
    qualifier := by
      intro segment member
      obtain rfl := List.mem_singleton.mp member
      exact ⟨"Foo".toList, [], by decide,
        ⟨List.all_eq_true.mp (by decide), 'F', ['o', 'o'], by decide,
          by decide⟩,
        by simp, .nil⟩
    member := ⟨"Addition", by decide, rfl⟩
    interior := by
      intro interior isInterior
      obtain rfl := Option.some.inj isInterior
      exact ⟨.inr (.inr rfl), .of_all (by decide)⟩
  }
  refine ⟨conforms, (parse_eq_ok_iff raw .operator _).mpr
    ⟨rfl, declaration, by decide, conforms, ?_⟩⟩
  exact {
    qualifier := by
      decide
    member := by
      decide
    arguments := .some (.pieces divided noneBlank)
  }

end ApiIndex.Signature

import ApiIndex.Naming
import ApiIndex.Proofs.Signature.Indexer

namespace ApiIndex.Signature

/-!
# Names in front of names

A qualified name puts the full names of several signatures in front of another
one.  Those in front were read by the plain grammar, so the whole is a dotted
name whose qualifier consists of members.  It is read for the kind of the last
signature again unless one of the members in front ends in an indexer.
-/

/-- The segments of the names of signatures that are put in front of a dotted
name. -/
structure Segmented
    (outer : List Signature)
    (segments : List (List Char)) : Prop where
  members :
    ∀ segment ∈ segments, IsSegment .member segment
  indexers :
    (∃ segment ∈ segments, EndsInIndexer segment) ↔
      ∃ scope ∈ outer, EndsInIndexer scope.member.toList
  joined :
    ∀ parts : List (List Char),
      parts ≠ [] →
        ['.'].intercalate
            (outer.map (fun scope => scope.fullName.toList) ++
              [['.'].intercalate parts]) =
          ['.'].intercalate (segments ++ parts)

theorem Segmented.nil :
    Segmented [] [] where
  members := by
    simp
  indexers := by
    simp
  joined := by
    simp

theorem Declaration.memberConforms_iff_of_plain
    {declaration : Declaration}
    {kind : Kind}
    (plain : kind.grammar = .plain) :
    declaration.MemberConforms kind ↔
      IsSegment .member declaration.member := by
  cases kind with
  | method =>
      contradiction
  | constructor =>
      contradiction
  | operator =>
      contradiction
  | _ =>
      rfl

/-- One more signature in front puts its own segments before the others. -/
theorem Segmented.cons
    {scope : Signature}
    {outer : List Signature}
    {segments : List (List Char)}
    {declaration : Declaration}
    {kind : Kind}
    (segmented : Segmented outer segments)
    (plain : kind.grammar = .plain)
    (conforms : declaration.Conforms kind)
    (shows : declaration.Shows scope) :
    Segmented (scope :: outer)
      (declaration.qualifier ++ declaration.member :: segments) where
  members := by
    have isMember :=
      (Declaration.memberConforms_iff_of_plain plain).mp conforms.member
    intro segment member
    rcases List.mem_append.mp member with inQualifier | inRest
    · exact (conforms.qualifier segment inQualifier).of_qualifier .member
    · rcases List.mem_cons.mp inRest with rfl | isLater
      · exact isMember
      · exact segmented.members segment isLater
  indexers := by
    have noneInQualifier :
        ¬ ∃ segment ∈ declaration.qualifier, EndsInIndexer segment := by
      rintro ⟨segment, member, ends⟩
      exact (conforms.qualifier segment member).not_endsInIndexer ends
    simp only [List.mem_append, or_and_right, exists_or, noneInQualifier,
      false_or, List.exists_mem_cons_iff, segmented.indexers,
      shows.member, String.toList_ofList]
  joined := by
    intro parts nonempty
    have here := shows.fullName
    have later := segmented.joined parts nonempty
    rw [List.map_cons, List.cons_append,
      List.intercalate_cons_of_ne_nil (by simp), later, here,
      Declaration.name, ← intercalate_append (by simp) (by simp [nonempty])]
    simp

/-- Signatures that the plain grammar accepts have names of segments. -/
theorem exists_segmented
    {outer : List Signature}
    (scopes :
      ∀ scope ∈ outer,
        ∃ raw kind,
          kind.grammar = .plain ∧ parse raw kind = .ok scope) :
    ∃ segments, Segmented outer segments := by
  induction outer with
  | nil =>
      exact ⟨[], .nil⟩
  | cons scope outer inductionHypothesis =>
      obtain ⟨raw, kind, plain, accepted⟩ := scopes scope (by simp)
      obtain ⟨declaration, -, conforms, shows⟩ :=
        exists_declaration_of_parse accepted
      obtain ⟨segments, segmented⟩ :=
        inductionHypothesis fun other member =>
          scopes other (by simp [member])
      exact ⟨_, segmented.cons plain conforms shows⟩

/-- The name of a declaration with segments in front of it. -/
def Declaration.behind
    (declaration : Declaration)
    (segments : List (List Char)) :
    Declaration :=
  ⟨segments ++ declaration.qualifier, declaration.member, none⟩

/-- A member conforms to its kind behind a longer qualifier, too. -/
theorem Declaration.MemberConforms.behind
    {declaration : Declaration}
    {kind : Kind}
    (conforms : declaration.MemberConforms kind)
    (segments : List (List Char)) :
    (declaration.behind segments).MemberConforms kind := by
  cases kind with
  | constructor =>
      exact ⟨conforms.1, List.append_ne_nil_of_right_ne_nil _ conforms.2⟩
  | _ =>
      exact conforms

section Rendered

variable
  {outer : List Signature}
  {segments : List (List Char)}
  {raw : String}
  {kind : Kind}
  {signature : Signature}

theorem Segmented.toList_render
    {declaration : Declaration}
    (segmented : Segmented outer segments)
    (shows : declaration.Shows signature) :
    (NestingRule.render
        (outer.map Signature.fullName ++ [signature.fullName])).toList =
      (declaration.behind segments).name := by
  have joined :=
    segmented.joined (declaration.qualifier ++ [declaration.member])
      (by simp)
  rw [← Declaration.name, ← shows.fullName] at joined
  rw [Declaration.name, Declaration.behind, List.append_assoc, ← joined]
  simp [NestingRule.render, NestingRule.separator, Function.comp_def]

/-- A name is rejected behind names of which one ends in an indexer. -/
theorem Segmented.parse_render_of_indexer
    (segmented : Segmented outer segments)
    (accepted : parse raw kind = .ok signature)
    (someIndexer : ∃ scope ∈ outer, EndsInIndexer scope.member.toList) :
    let name :=
      NestingRule.render
        (outer.map Signature.fullName ++ [signature.fullName])
    ∃ offset,
      parse name kind = .error ⟨name, .indexerNotAllowed offset⟩ := by
  intro name
  obtain ⟨declaration, -, conforms, shows⟩ :=
    exists_declaration_of_parse accepted
  obtain ⟨segment, isOuter, ends⟩ := segmented.indexers.mpr someIndexer
  have areMembers :
      ∀ segment ∈ (declaration.behind segments).qualifier,
        IsSegment .member segment := by
    intro other member
    rcases List.mem_append.mp member with isOuter | isOwn
    · exact segmented.members other isOuter
    · exact (conforms.qualifier other isOwn).of_qualifier .member
  exact exists_parse_of_indexer areMembers
    ⟨segment, List.mem_append_left _ isOuter, ends⟩
    (conforms.member.behind segments) (segmented.toList_render shows)

/-- A name is read behind names of which none ends in an indexer. -/
theorem Segmented.parse_render_of_no_indexer
    (segmented : Segmented outer segments)
    (accepted : parse raw kind = .ok signature)
    (noIndexer :
      ¬ ∃ scope ∈ outer, EndsInIndexer scope.member.toList) :
    let name :=
      NestingRule.render
        (outer.map Signature.fullName ++ [signature.fullName])
    ∃ again,
      parse name kind = .ok again ∧
        again.fullName = name ∧ again.arguments = none := by
  intro name
  obtain ⟨declaration, -, conforms, shows⟩ :=
    exists_declaration_of_parse accepted
  have written := segmented.toList_render shows
  have nested : (declaration.behind segments).Conforms kind := by
    refine ⟨?_, conforms.member.behind segments, by
      simp [Declaration.behind]⟩
    intro segment member
    rcases List.mem_append.mp member with isOuter | isOwn
    · rcases (segmented.members segment isOuter).qualifier_or_indexer with
          isQualifier | ⟨front, interior, shape, -, holds⟩
      · exact isQualifier
      · exact absurd
          (segmented.indexers.mp
            ⟨segment, isOuter, front, interior, shape, holds⟩)
          noIndexer
    · exact conforms.qualifier segment isOwn
  have shown :
      (declaration.behind segments).Shows
        { signature with
          raw := name
          qualifier :=
            (declaration.behind segments).qualifierText.map String.ofList
          arguments := none } :=
    ⟨rfl, shows.member, .none⟩
  refine ⟨_, parse_of_conforms nested shown ?_ rfl, ?_, rfl⟩
  · rw [written, Declaration.text, Declaration.behind, listText,
      List.append_nil]
  · rw [← String.toList_inj, shown.fullName, written]

end Rendered

end ApiIndex.Signature

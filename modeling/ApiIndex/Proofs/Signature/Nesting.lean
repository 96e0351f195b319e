import ApiIndex.Proofs.Bracket.CommonStack
import ApiIndex.Proofs.Signature.Reparse

namespace ApiIndex.Signature

open ApiIndex.Text
open ApiIndex.Bracket

/-!
# How deep the brackets of a name nest

Every group of a name that no other group encloses has been checked: it is a
generic group or an indexer, and its interior balances by itself.  Balance is
counted for each family, and groups inside of the interior are not checked
again.  Brackets can therefore not cross on the outermost level, but those of
different families can cross further inside, and whether a name nests properly
is decided there.
-/

/-- Every group at top level has been checked. -/
def Grouped
    (text : List Char) :
    Prop :=
  ∀ family interior,
    TopGroup text family interior →
      family ≠ .paren ∧ Interior interior

/-- Nothing between parts puts them directly behind each other. -/
private theorem nil_intercalate
    (parts : List (List Char)) :
    [].intercalate parts = parts.flatten := by
  induction parts with
  | nil =>
      rfl
  | cons part parts inductionHypothesis =>
      cases parts with
      | nil =>
          simp
      | cons next parts =>
          rw [List.intercalate_cons_cons, inductionHypothesis]
          simp

namespace Grouped

/-- A text without openers has no groups. -/
theorem of_no_opener
    {text : List Char}
    (noOpener : ∀ family : Family, family.opener ∉ text) :
    Grouped text := by
  intro family interior group
  exact absurd group.opener_mem (noOpener family)

/-- A text of identifier characters has no groups. -/
theorem of_identifier
    {text : List Char}
    (characters :
      ∀ character ∈ text, isIdentifier character = true) :
    Grouped text := by
  apply of_no_opener
  intro family member
  have here := characters _ member
  simp [isIdentifier_opener] at here

theorem append
    {left right : List Char}
    (balanced : Balanced left)
    (leftGrouped : Grouped left)
    (rightGrouped : Grouped right) :
    Grouped (left ++ right) := by
  intro family interior group
  rcases (TopGroup.append_iff balanced).mp group with inLeft | inRight
  · exact leftGrouped family interior inLeft
  · exact rightGrouped family interior inRight

theorem group
    {family : Family}
    {interior : List Char}
    (notParen : family ≠ .paren)
    (holds : Interior interior) :
    Grouped (family.opener :: interior ++ [family.closer]) := by
  intro other inside group
  obtain ⟨rfl, rfl⟩ :=
    (TopGroup.wrap_iff (holds.balanced family)).mp group
  exact ⟨notParen, holds⟩

/-- Balanced parts with a separator between them have no other groups than the
parts. -/
theorem intercalate
    {separator : List Char}
    {parts : List (List Char)}
    (separates : Balanced separator)
    (noOpener : ∀ family : Family, family.opener ∉ separator)
    (areBalanced : ∀ part ∈ parts, Balanced part)
    (areGrouped : ∀ part ∈ parts, Grouped part) :
    Grouped (separator.intercalate parts) := by
  induction parts with
  | nil =>
      exact of_no_opener (by simp)
  | cons part parts inductionHypothesis =>
      rw [List.forall_mem_cons] at areBalanced areGrouped
      cases parts with
      | nil =>
          simpa using areGrouped.1
      | cons next parts =>
          rw [List.intercalate_cons_cons]
          exact append (areBalanced.1.append separates)
            (append areBalanced.1 areGrouped.1 (of_no_opener noOpener))
            (inductionHypothesis areBalanced.2 areGrouped.2)

end Grouped

theorem Suffix.WellFormed.grouped
    {suffix : Suffix}
    (wellFormed : suffix.WellFormed) :
    Grouped suffix.text := by
  have noOpener
      {digits : List Char}
      (areDigits : ∀ digit ∈ digits, isAsciiDigit digit = true)
      (family : Family) :
      family.opener ∉ digits ∧ family.opener ≠ '\x60' := by
    refine ⟨?_, by cases family <;> decide⟩
    intro member
    have here := areDigits _ member
    simp [isAsciiDigit_opener] at here
  cases suffix with
  | typeArity digits =>
      apply Grouped.of_no_opener
      intro family
      simp [Suffix.text, noOpener wellFormed.2 family]
  | methodArity digits =>
      apply Grouped.of_no_opener
      intro family
      simp [Suffix.text, noOpener wellFormed.2 family]
  | generic family interior =>
      apply Grouped.group _ wellFormed.2
      rcases wellFormed.1 with rfl | rfl <;> decide
  | indexer interior =>
      exact @Grouped.group .square interior (by decide) wellFormed

theorem IsSegment.grouped
    {position : Position}
    {text : List Char}
    (segment : IsSegment position text) :
    Grouped text := by
  obtain ⟨identifier, suffixes, rfl, isIdentifier, conform, -⟩ := segment
  have start := NamePart.of_identifier isIdentifier.characters
  apply Grouped.append start.balanced
    (.of_identifier isIdentifier.characters)
  rw [List.flatMap_def, ← nil_intercalate]
  apply Grouped.intercalate .nil (by simp)
  · intro part member
    obtain ⟨suffix, isSuffix, rfl⟩ := List.mem_map.mp member
    exact (conform suffix isSuffix).1.namePart.balanced
  · intro part member
    obtain ⟨suffix, isSuffix, rfl⟩ := List.mem_map.mp member
    exact (conform suffix isSuffix).1.grouped

namespace Declaration

variable {declaration : Declaration} {kind : Kind}

theorem MemberConforms.grouped
    (conforms : declaration.MemberConforms kind) :
    Grouped declaration.member := by
  unfold MemberConforms at conforms
  split at conforms
  · exact conforms.grouped
  · rw [conforms.1]
    apply Grouped.of_no_opener
    intro family
    cases family <;> decide
  · obtain ⟨word, member, shape⟩ := conforms
    rw [shape]
    exact .of_identifier (isIdentifier_of_operatorWords member)
  · exact conforms.grouped

/-- Every group of the name of a conforming declaration has been checked. -/
theorem Conforms.grouped_name
    (conforms : declaration.Conforms kind) :
    Grouped declaration.name := by
  have dot : Balanced ['.'] :=
    .of_all (by decide)
  apply Grouped.intercalate dot
  · intro family
    cases family <;> decide
  · intro part member
    rcases List.mem_append.mp member with inQualifier | isMember
    · exact (conforms.qualifier part inQualifier).namePart.balanced
    · rw [List.mem_singleton.mp isMember]
      exact conforms.member.namePart.balanced
  · intro part member
    rcases List.mem_append.mp member with inQualifier | isMember
    · exact (conforms.qualifier part inQualifier).grouped
    · rw [List.mem_singleton.mp isMember]
      exact conforms.member.grouped

end Declaration

/-- The groups of a full name at top level have interiors that balance in every
family.  The name nests properly exactly if all these interiors do, and so it
does if each of them has brackets of at most one family. -/
theorem fullName_nests_iff_topGroups_nest
    (raw : String)
    (kind : Kind)
    (signature : Signature)
    (accepted : parse raw kind = .ok signature) :
    let name := signature.fullName.toList
    Grouped name ∧
      (ProperlyNested name ↔
        ∀ family interior,
          TopGroup name family interior → ProperlyNested interior) ∧
      ((∀ family interior,
        TopGroup name family interior →
          ∃ inner : Family,
            ∀ other : Family,
              other.opener ∈ interior → other = inner) →
        ProperlyNested name) := by
  intro name
  obtain ⟨declaration, -, conforms, shows⟩ :=
    exists_declaration_of_parse accepted
  have written : name = declaration.name := shows.fullName
  have grouped : Grouped name := written ▸ conforms.grouped_name
  have nestsIff := properlyNested_iff_topGroups (written ▸ conforms.name.1)
  refine ⟨grouped, nestsIff, ?_⟩
  intro oneFamily
  rw [nestsIff]
  intro family interior group
  obtain ⟨inner, onlyInner⟩ := oneFamily family interior group
  exact (grouped family interior group).2.balanced
    |>.properlyNested_of_one_family onlyInner

/-- Braces nest inside of a generic group, so the whole name nests properly. -/
theorem fullName_nests_of_braces_in_group :
    let raw := " Map<K\x7bV\x7bW\x7d\x7d>.Item[K<V>]"
    let name := "Map<K\x7bV\x7bW\x7d\x7d>.Item[K<V>]"
    let interior := "K\x7bV\x7bW\x7d\x7d".toList
    ∃ signature,
      parse raw .property = .ok signature ∧
        signature.fullName = name ∧
        ProperlyNested name.toList ∧
        Interior interior ∧ ProperlyNested interior := by
  intro raw name interior
  have accepted :
      parse raw .property =
        .ok ⟨raw, some "Map<K\x7bV\x7bW\x7d\x7d>", "Item[K<V>]",
          none⟩ := by
    decide +kernel
  have scanned : scan interior = .ok (marked interior) := by
    decide +kernel
  have mapLevel : Level "Map".toList :=
    (NamePart.of_identifier
      (List.all_eq_true.mp (by decide))).balanced.level
  have group : TopGroup name.toList .angle interior :=
    ⟨"Map".toList, ".Item[K<V>]".toList, by decide, mapLevel,
      (scan_eq_ok_iff.mp scanned).1 .angle⟩
  have nested : ProperlyNested name.toList := by
    decide +kernel
  obtain ⟨grouped, nestsIff, -⟩ :=
    fullName_nests_iff_topGroups_nest raw .property _ accepted
  exact ⟨_, accepted, rfl, nested, (grouped .angle interior group).2,
    nestsIff.mp nested .angle interior group⟩

/-- Brackets of two families cross inside of a generic group. -/
theorem crossing_inside_group_accepted :
    ∃ signature,
      parse "Map<A\x7bB<C\x7dD>>" .classType = .ok signature ∧
        ¬ ProperlyNested signature.fullName.toList := by
  refine ⟨⟨"Map<A\x7bB<C\x7dD>>", none, "Map<A\x7bB<C\x7dD>>", none⟩,
    ?_, ?_⟩
  · decide +kernel
  · decide +kernel

end ApiIndex.Signature

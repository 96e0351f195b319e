import ApiIndex.Proofs.Bracket.Queries
import ApiIndex.Signature.Parser

namespace ApiIndex.Signature

open ApiIndex.Text
open ApiIndex.Bracket

/-!
# The grammar of declarations

The grammar is stated on its own, without offsets, scans or a reading order.  A
declaration is a dotted name, whose last segment is the member, and perhaps the
interior of an argument list; its text writes these behind each other.  Which
declarations conform to a kind is said segment by segment.
-/

/-- What may stand between the brackets of a group. -/
structure Interior
    (text : List Char) : Prop where
  characters : ∀ character ∈ text, isGroupCharacter character = true
  balanced : Balanced text

/-- What may follow the identifier of a segment. -/
inductive Suffix where
  | typeArity (digits : List Char)
  | methodArity (digits : List Char)
  | generic (family : Family) (interior : List Char)
  | indexer (interior : List Char)

namespace Suffix

/-- A suffix as it is written. -/
def text : Suffix → List Char
  | .typeArity digits =>
      '\x60' :: digits
  | .methodArity digits =>
      '\x60' :: '\x60' :: digits
  | .generic family interior =>
      family.opener :: interior ++ [family.closer]
  | .indexer interior =>
      '[' :: interior ++ [']']

/-- An arity has digits, a generic group stands between angle brackets or
braces, and what a group holds is an interior. -/
def WellFormed : Suffix → Prop
  | .typeArity digits =>
      digits ≠ [] ∧ ∀ digit ∈ digits, isAsciiDigit digit = true
  | .methodArity digits =>
      digits ≠ [] ∧ ∀ digit ∈ digits, isAsciiDigit digit = true
  | .generic family interior =>
      (family = .angle ∨ family = .brace) ∧ Interior interior
  | .indexer interior =>
      Interior interior

/-- Whether a suffix may stand somewhere before another one.  No arity and no
generic group comes twice, no type arity comes behind a method arity, and
nothing comes behind an indexer. -/
def MayPrecede : Suffix → Suffix → Prop
  | .typeArity _, .typeArity _ => False
  | .methodArity _, .methodArity _ => False
  | .methodArity _, .typeArity _ => False
  | .generic .., .generic .. => False
  | .indexer _, _ => False
  | _, _ => True

end Suffix

/-- Whether a position in the dotted name allows a suffix.  Only the member may
have an indexer, and only that of a method a method arity. -/
def Position.Allows
    (position : Position) :
    Suffix → Prop
  | .typeArity _ => True
  | .methodArity _ => position = .callableMember
  | .generic .. => True
  | .indexer _ => position ≠ .qualifier

/-- An identifier does not start with a number. -/
structure Identifier
    (text : List Char) : Prop where
  characters : ∀ character ∈ text, isIdentifier character = true
  start : ∃ first rest, text = first :: rest ∧ isNumeric first = false

/-- A segment is an identifier followed by suffixes. -/
def IsSegment
    (position : Position)
    (text : List Char) :
    Prop :=
  ∃ (identifier : List Char) (suffixes : List Suffix),
    text = identifier ++ suffixes.flatMap Suffix.text ∧
      Identifier identifier ∧
      (∀ suffix ∈ suffixes, suffix.WellFormed ∧ position.Allows suffix) ∧
      suffixes.Pairwise Suffix.MayPrecede

/-- An argument list as it is written, if there is one. -/
def listText : Option (List Char) → List Char
  | none =>
      []
  | some interior =>
      '(' :: interior ++ [')']

/-- A declaration divided into the segments of its qualifier, its member and,
if it has an argument list, the interior of the list. -/
structure Declaration where
  qualifier : List (List Char)
  member : List Char
  interior : Option (List Char)

namespace Declaration

/-- The dotted name of a declaration. -/
def name
    (declaration : Declaration) :
    List Char :=
  ['.'].intercalate (declaration.qualifier ++ [declaration.member])

/-- The qualifier of a declaration as it is written, if it has one. -/
def qualifierText
    (declaration : Declaration) :
    Option (List Char) :=
  if declaration.qualifier = [] then
    none
  else
    some (['.'].intercalate declaration.qualifier)

/-- A declaration as it is written. -/
def text
    (declaration : Declaration) :
    List Char :=
  declaration.name ++ listText declaration.interior

/-- The member that a kind asks for.  A constructor has a fixed member behind a
qualifier, an operator is known by its name, and all other members are
segments. -/
def MemberConforms
    (declaration : Declaration) :
    Kind → Prop
  | .method =>
      IsSegment .callableMember declaration.member
  | .constructor =>
      declaration.member = constructorName.toList ∧
        declaration.qualifier ≠ []
  | .operator =>
      ∃ word ∈ operatorWords,
        declaration.member = ("op_" ++ word).toList
  | _ =>
      IsSegment .member declaration.member

/-- Whether a declaration is written as its kind asks for. -/
structure Conforms
    (declaration : Declaration)
    (kind : Kind) : Prop where
  qualifier :
    ∀ segment ∈ declaration.qualifier, IsSegment .qualifier segment
  member :
    declaration.MemberConforms kind
  interior :
    ∀ interior ∈ declaration.interior,
      (kind = .method ∨ kind = .constructor ∨ kind = .operator) ∧
        Balanced interior

end Declaration

/-- The entries of the interior of an argument list: none if it is blank, and
otherwise the trimmed pieces between the commas at top level, of which none is
blank. -/
inductive Entries : List Char → List String → Prop where
  | blank
      {interior : List Char}
      (allBlank : ∀ character ∈ interior, isBlank character = true) :
      Entries interior []
  | pieces
      {interior : List Char}
      {pieces : List (List Char)}
      (divided : Pieces ',' interior pieces)
      (noneBlank :
        ∀ piece ∈ pieces,
          ∃ character ∈ piece, isBlank character = false) :
      Entries interior
        (pieces.map fun piece => String.ofList (trim piece))

/-- Whether a signature shows the parts of a declaration. -/
structure Declaration.Shows
    (declaration : Declaration)
    (signature : Signature) : Prop where
  qualifier :
    signature.qualifier = declaration.qualifierText.map String.ofList
  member :
    signature.member = String.ofList declaration.member
  arguments :
    Option.Rel Entries declaration.interior signature.arguments

/-- No bracket may stand in an identifier. -/
theorem isIdentifier_opener
    (family : Family) :
    isIdentifier family.opener = false := by
  cases family <;> decide

theorem isIdentifier_closer
    (family : Family) :
    isIdentifier family.closer = false := by
  cases family <;> decide

/-- No digit is a bracket. -/
theorem isAsciiDigit_opener
    (family : Family) :
    isAsciiDigit family.opener = false := by
  cases family <;> decide

theorem isAsciiDigit_closer
    (family : Family) :
    isAsciiDigit family.closer = false := by
  cases family <;> decide

/-- A parenthesis may not stand in a group. -/
theorem isGroupCharacter_paren :
    isGroupCharacter '(' = false := by
  decide

/-- What the parts of a dotted name have in common, and what makes the dots
between them and the parenthesis behind them stand out. -/
structure NamePart
    (text : List Char) : Prop where
  balanced : Balanced text
  noParenthesis : '(' ∉ text
  noDot : NoneTop '.' text

namespace NamePart

theorem nil :
    NamePart [] :=
  ⟨.nil, by simp, .of_not_mem (by simp)⟩

/-- Parts of a name behind each other are part of a name. -/
theorem append
    {left right : List Char}
    (leftPart : NamePart left)
    (rightPart : NamePart right) :
    NamePart (left ++ right) where
  balanced :=
    leftPart.balanced.append rightPart.balanced
  noParenthesis := by
    simp [leftPart.noParenthesis, rightPart.noParenthesis]
  noDot :=
    .append leftPart.balanced.level leftPart.noDot rightPart.noDot

/-- A text of characters that are neither brackets nor dots is part of a
name. -/
theorem of_characters
    {text : List Char}
    {accept : Char → Bool}
    (accepted : ∀ character ∈ text, accept character = true)
    (noOpener : ∀ family : Family, accept family.opener = false)
    (noCloser : ∀ family : Family, accept family.closer = false)
    (noDot : accept '.' = false) :
    NamePart text where
  balanced := by
    intro family
    apply BalancedIn.of_not_mem
    · intro member
      have here := accepted _ member
      simp [noOpener] at here
    · intro member
      have here := accepted _ member
      simp [noCloser] at here
  noParenthesis := by
    intro member
    have here := accepted _ member
    have never := noOpener .paren
    rw [Family.opener] at never
    simp [never] at here
  noDot := by
    apply NoneTop.of_not_mem
    intro member
    have here := accepted _ member
    simp [noDot] at here

/-- A text of identifier characters is part of a name. -/
theorem of_identifier
    {text : List Char}
    (characters :
      ∀ character ∈ text, isIdentifier character = true) :
    NamePart text :=
  of_characters characters isIdentifier_opener isIdentifier_closer
    (by decide)

/-- A group is part of a name. -/
theorem of_interior
    {interior : List Char}
    {family : Family}
    (notParen : family ≠ .paren)
    (holds : Interior interior) :
    NamePart (family.opener :: interior ++ [family.closer]) where
  balanced :=
    holds.balanced.wrap family
  noParenthesis := by
    have outside : '(' ∉ interior := by
      intro member
      have inside := holds.characters _ member
      simp [isGroupCharacter_paren] at inside
    have notOpener : '(' ≠ family.opener := by
      cases family <;> simp_all [Family.opener]
    have notCloser : '(' ≠ family.closer := by
      cases family <;> decide
    simp [outside, notOpener, notCloser]
  noDot := by
    apply NoneTop.wrap (holds.balanced family).covered
    cases family <;> decide

theorem flatten
    {parts : List (List Char)}
    (areParts : ∀ part ∈ parts, NamePart part) :
    NamePart parts.flatten := by
  induction parts with
  | nil =>
      exact nil
  | cons part parts inductionHypothesis =>
      have here := areParts part (by simp)
      have later :=
        inductionHypothesis fun other member =>
          areParts other (by simp [member])
      simpa using here.append later

end NamePart

theorem Suffix.WellFormed.namePart
    {suffix : Suffix}
    (wellFormed : suffix.WellFormed) :
    NamePart suffix.text := by
  have ticksAndDigits
      {digits : List Char}
      (areDigits : ∀ digit ∈ digits, isAsciiDigit digit = true)
      (ticks : Nat) :
      NamePart (List.replicate ticks '\x60' ++ digits) := by
    apply NamePart.append
    · apply @NamePart.of_characters _ (· == '\x60')
      · simp
      · intro family
        cases family <;> decide
      · intro family
        cases family <;> decide
      · decide
    · exact NamePart.of_characters areDigits isAsciiDigit_opener
        isAsciiDigit_closer (by decide)
  cases suffix with
  | typeArity digits =>
      exact ticksAndDigits wellFormed.2 1
  | methodArity digits =>
      exact ticksAndDigits wellFormed.2 2
  | generic family interior =>
      apply NamePart.of_interior _ wellFormed.2
      rcases wellFormed.1 with rfl | rfl <;> decide
  | indexer interior =>
      exact @NamePart.of_interior interior .square (by decide) wellFormed

/-- A suffix starts with a character that continues neither an identifier nor
an arity. -/
theorem Suffix.exists_text_eq_cons
    (suffix : Suffix) :
    ∃ first rest,
      suffix.text = first :: rest ∧
        isIdentifier first = false ∧ isAsciiDigit first = false := by
  cases suffix with
  | typeArity digits =>
      exact ⟨_, _, rfl, by decide, by decide⟩
  | methodArity digits =>
      exact ⟨_, _, rfl, by decide, by decide⟩
  | generic family interior =>
      exact ⟨_, _, rfl, isIdentifier_opener family,
        isAsciiDigit_opener family⟩
  | indexer interior =>
      exact ⟨_, _, rfl, by decide, by decide⟩

theorem IsSegment.namePart
    {position : Position}
    {text : List Char}
    (segment : IsSegment position text) :
    NamePart text := by
  obtain ⟨identifier, suffixes, rfl, isIdentifier, conform, -⟩ := segment
  apply (NamePart.of_identifier isIdentifier.characters).append
  rw [List.flatMap_def]
  apply NamePart.flatten
  intro part member
  obtain ⟨suffix, isSuffix, rfl⟩ := List.mem_map.mp member
  exact (conform suffix isSuffix).1.namePart

theorem IsSegment.ne_nil
    {position : Position}
    {text : List Char}
    (segment : IsSegment position text) :
    text ≠ [] := by
  obtain ⟨identifier, suffixes, rfl, isIdentifier, -, -⟩ := segment
  obtain ⟨first, rest, rfl, -⟩ := isIdentifier.start
  simp

theorem isIdentifier_of_operatorWords
    {word : String}
    (member : word ∈ operatorWords) :
    ∀ character ∈ ("op_" ++ word).toList,
      isIdentifier character = true := by
  have start : "op_".toList.all isIdentifier = true := by
    decide
  have words :
      operatorWords.all (fun word => word.toList.all isIdentifier) =
        true := by
    decide +kernel
  intro character occurs
  rw [String.toList_append, List.mem_append] at occurs
  rcases occurs with atStart | inWord
  · exact List.all_eq_true.mp start character atStart
  · have isWord := List.all_eq_true.mp words word member
    exact List.all_eq_true.mp isWord character inWord

namespace Declaration

variable {declaration : Declaration} {kind : Kind}

theorem MemberConforms.namePart
    (conforms : declaration.MemberConforms kind) :
    NamePart declaration.member := by
  unfold MemberConforms at conforms
  split at conforms
  · exact conforms.namePart
  · rw [conforms.1]
    apply @NamePart.of_characters _ constructorName.toList.contains
    · simp
    · intro family
      cases family <;> decide
    · intro family
      cases family <;> decide
    · decide
  · obtain ⟨word, member, shape⟩ := conforms
    rw [shape]
    exact .of_identifier (isIdentifier_of_operatorWords member)
  · exact conforms.namePart

theorem MemberConforms.ne_nil
    (conforms : declaration.MemberConforms kind) :
    declaration.member ≠ [] := by
  unfold MemberConforms at conforms
  split at conforms
  · exact conforms.ne_nil
  · rw [conforms.1]
    decide
  · obtain ⟨word, member, shape⟩ := conforms
    rw [shape]
    simp
  · exact conforms.ne_nil

end Declaration

end ApiIndex.Signature

import ApiIndex.Proofs.Signature.Acceptance
import ApiIndex.Proofs.Signature.Entries

namespace ApiIndex.Signature

open ApiIndex.Text
open ApiIndex.Bracket

/-!
# Reading a signature again

A signature can be written back in two ways: by its full name alone, and with
its arguments.  Both texts are those of declarations that conform to the kind
the signature was read for, so reading them again gives the same parts.  The
full name is what stands before the argument list, and the arguments may stand
between other blanks than in the original.
-/

section Trimmed

variable {text : List Char} {declaration : Declaration} {kind : Kind}

theorem Identifier.trimmed
    (identifier : Identifier text) :
    Trimmed text :=
  .of_visible fun character member =>
    isBlank_of_isIdentifier (identifier.characters character member)

/-- A suffix starts with a backtick or an opener and ends with a digit or a
closer. -/
theorem Suffix.WellFormed.trimmed
    {suffix : Suffix}
    (wellFormed : suffix.WellFormed) :
    Trimmed suffix.text := by
  have ticksAndDigits
      {ticks digits : List Char}
      (areTicks : ticks.any isBlank = false)
      (areDigits : ∀ digit ∈ digits, isAsciiDigit digit = true) :
      Trimmed (ticks ++ digits) :=
    (Trimmed.of_any_eq_false areTicks).append
      (.of_visible fun digit member =>
        isBlank_of_isAsciiDigit (areDigits digit member))
  cases suffix with
  | typeArity digits =>
      exact @ticksAndDigits ['\x60'] digits (by decide) wellFormed.2
  | methodArity digits =>
      exact @ticksAndDigits ['\x60', '\x60'] digits (by decide)
        wellFormed.2
  | generic family interior =>
      exact .wrap (by cases family <;> decide) interior
        (by cases family <;> decide)
  | indexer interior =>
      exact .wrap (by decide) interior (by decide)

theorem IsSegment.trimmed
    {position : Position}
    (segment : IsSegment position text) :
    Trimmed text := by
  obtain ⟨identifier, suffixes, rfl, isIdentifier, conform, -⟩ := segment
  apply isIdentifier.trimmed.append
  rw [List.flatMap_def]
  apply Trimmed.flatten
  intro part member
  obtain ⟨suffix, isSuffix, rfl⟩ := List.mem_map.mp member
  exact (conform suffix isSuffix).1.trimmed

theorem Declaration.MemberConforms.trimmed
    (conforms : declaration.MemberConforms kind) :
    Trimmed declaration.member := by
  unfold MemberConforms at conforms
  split at conforms
  · exact conforms.trimmed
  · rw [conforms.1]
    exact .of_any_eq_false (by decide)
  · obtain ⟨word, member, shape⟩ := conforms
    rw [shape]
    exact .of_visible fun character occurs =>
      isBlank_of_isIdentifier
        (isIdentifier_of_operatorWords member character occurs)
  · exact conforms.trimmed

/-- A name of segments and of a member that conforms to a kind has no blanks
around it. -/
theorem Declaration.trimmed_name
    {position : Position}
    (areSegments :
      ∀ segment ∈ declaration.qualifier, IsSegment position segment)
    (conforms : declaration.MemberConforms kind) :
    Trimmed declaration.name := by
  apply Trimmed.intercalate (.of_any_eq_false (by decide))
  intro part member
  rcases List.mem_append.mp member with inQualifier | isMember
  · exact (areSegments part inQualifier).trimmed
  · rw [List.mem_singleton.mp isMember]
    exact conforms.trimmed

/-- The text of a conforming declaration has no blanks around it. -/
theorem Declaration.Conforms.trimmed
    (conforms : declaration.Conforms kind) :
    Trimmed declaration.text := by
  apply (Declaration.trimmed_name conforms.qualifier
    conforms.member).append
  cases declaration.interior with
  | none =>
      exact .nil
  | some interior =>
      exact .wrap (by decide) interior (by decide)

end Trimmed

section Writing

variable {declaration : Declaration} {signature : Signature}

/-- The full name of a signature is the name of the declaration it shows. -/
theorem Declaration.Shows.fullName
    (shows : declaration.Shows signature) :
    signature.fullName.toList = declaration.name := by
  rw [declaration.name_eq_nameText, Signature.fullName, shows.qualifier,
    shows.member]
  cases declaration.qualifierText with
  | none =>
      simp [nameText]
  | some before =>
      simp [nameText]

/-- A signature is displayed as the declaration with the interior that is
written from its arguments. -/
theorem Declaration.Shows.display
    (shows : declaration.Shows signature) :
    signature.display.toList =
      Declaration.text
        { declaration with
          interior := signature.arguments.map shownInterior } := by
  rw [Signature.display, String.toList_append, shows.fullName,
    Declaration.text]
  cases isArguments : signature.arguments with
  | none =>
      simp [argumentText, isArguments, listText, Declaration.name]
  | some arguments =>
      simp [argumentText, isArguments, listText, Declaration.name,
        shownInterior]

end Writing

section Reading

variable {raw : String} {kind : Kind} {signature : Signature}

/-- What is read is the text of a conforming declaration. -/
theorem exists_declaration_of_parse
    (accepted : parse raw kind = .ok signature) :
    ∃ declaration : Declaration,
      declaration.text = trim raw.toList ∧
        declaration.Conforms kind ∧ declaration.Shows signature := by
  unfold parse at accepted
  split at accepted
  · contradiction
  · next read =>
      cases accepted
      simp only [readText] at read
      split at read
      · contradiction
      · split at read
        · contradiction
        · next marks scanned =>
            obtain ⟨balanced, rfl⟩ := scan_eq_ok_iff.mp scanned
            exact ((readScanned_eq_ok_iff balanced).mp read).2

/-- The text of a conforming declaration is read as what shows it. -/
theorem parse_of_conforms
    {declaration : Declaration}
    (conforms : declaration.Conforms kind)
    (shows : declaration.Shows signature)
    (written : raw.toList = declaration.text)
    (isRaw : signature.raw = raw) :
    parse raw kind = .ok signature := by
  have trimmed : trim raw.toList = declaration.text := by
    rw [written]
    exact conforms.trimmed.trim_eq
  have scanned := scan_eq_ok_iff.mpr ⟨conforms.balanced, rfl⟩
  have read :=
    (readScanned_eq_ok_iff conforms.balanced).mpr
      ⟨isRaw, declaration, rfl, conforms, shows⟩
  simp only [parse, readText, trimmed, conforms.text_ne_nil, ↓reduceIte,
    scanned, read]

end Reading

section Again

variable {raw : String} {kind : Kind} {signature : Signature}

/-- A declaration that shows its arguments as they are displayed conforms and
has the same entries. -/
theorem Declaration.Conforms.shown
    {declaration : Declaration}
    (conforms : declaration.Conforms kind)
    (shows : declaration.Shows signature) :
    Declaration.Conforms
        { declaration with
          interior := signature.arguments.map shownInterior } kind ∧
      Option.Rel Entries (signature.arguments.map shownInterior)
        signature.arguments := by
  have entries := shows.arguments
  have interiors := conforms.interior
  cases isArguments : signature.arguments with
  | none =>
      exact ⟨⟨conforms.qualifier, conforms.member, by simp⟩, .none⟩
  | some arguments =>
      rw [isArguments] at entries
      cases isInterior : declaration.interior with
      | none =>
          rw [isInterior] at entries
          cases entries
      | some interior =>
          rw [isInterior] at entries
          cases entries with
          | some holds =>
              obtain ⟨callable, balanced⟩ := interiors interior isInterior
              have shown := holds.shown balanced
              refine ⟨⟨conforms.qualifier, conforms.member, ?_⟩,
                .some shown.2⟩
              simpa using ⟨callable, shown.1⟩

/-- Reading the displayed text gives the same parts. -/
theorem parse_display
    (accepted : parse raw kind = .ok signature) :
    parse signature.display kind =
      .ok { signature with raw := signature.display } := by
  obtain ⟨declaration, -, conforms, shows⟩ :=
    exists_declaration_of_parse accepted
  obtain ⟨shownConforms, entries⟩ := conforms.shown shows
  refine parse_of_conforms shownConforms ?_ shows.display rfl
  exact ⟨shows.qualifier, shows.member, entries⟩

/-- Reading the full name gives the same name without arguments. -/
theorem parse_fullName
    (accepted : parse raw kind = .ok signature) :
    parse signature.fullName kind =
      .ok
        { signature with
          raw := signature.fullName
          arguments := none } := by
  obtain ⟨declaration, -, conforms, shows⟩ :=
    exists_declaration_of_parse accepted
  have bare :
      Declaration.Conforms { declaration with interior := none } kind :=
    ⟨conforms.qualifier, conforms.member, by simp⟩
  refine parse_of_conforms bare ?_ ?_ rfl
  · exact ⟨shows.qualifier, shows.member, .none⟩
  · simp [shows.fullName, Declaration.text, Declaration.name, listText]

end Again

/-- What stands before the first occurrence of a character at top level, or the
whole text if there is none. -/
def BeforeFirstTop
    (character : Char)
    (text front : List Char) :
    Prop :=
  NoneTop character front ∧
    (text = front ∨
      ∃ after, text = front ++ character :: after ∧ Level front)

/-- The full name of a signature has no parenthesis and is the text before the
argument list.  Reading it again gives the same name and no arguments. -/
theorem fullName_before_arguments_and_reads_again
    (raw : String)
    (kind : Kind)
    (signature : Signature)
    (accepted : parse raw kind = .ok signature) :
    '(' ∉ signature.fullName.toList ∧
      ')' ∉ signature.fullName.toList ∧
      BeforeFirstTop '(' (trim raw.toList)
        signature.fullName.toList ∧
      parse signature.fullName kind =
        .ok
          ⟨signature.fullName, signature.qualifier, signature.member,
            none⟩ := by
  obtain ⟨declaration, text, conforms, shows⟩ :=
    exists_declaration_of_parse accepted
  obtain ⟨balanced, noOpener⟩ := conforms.name
  rw [shows.fullName]
  refine ⟨noOpener, ?_, ⟨.of_not_mem noOpener, ?_⟩,
    parse_fullName accepted⟩
  · exact (balanced .paren).closer_not_mem noOpener
  · rw [← text, Declaration.text]
    cases declaration.interior with
    | none =>
        exact .inl (by simp [listText])
    | some interior =>
        exact .inr
          ⟨interior ++ [')'], by simp [listText], balanced.level⟩

/-- A generic method whose parameters are separated by a comma at top level and
by one inside of crossing brackets. -/
theorem fullName_of_generic_method :
    let raw := " Map<K, V>.Insert``1( K key ,Pair[<,],>)"
    let signature : Signature :=
      ⟨raw, some "Map<K, V>", "Insert``1",
        some ["K key", "Pair[<,],>"]⟩
    parse raw .method = .ok signature ∧
      BeforeFirstTop '(' (trim raw.toList)
        "Map<K, V>.Insert``1".toList ∧
      parse "Map<K, V>.Insert``1" .method =
        .ok
          ⟨"Map<K, V>.Insert``1", some "Map<K, V>", "Insert``1",
            none⟩ := by
  intro raw signature
  have accepted : parse raw .method = .ok signature := by
    decide +kernel
  have again :=
    fullName_before_arguments_and_reads_again raw .method signature
      accepted
  exact ⟨accepted, again.2.2.1, again.2.2.2⟩

/-- Reading a displayed signature gives the same parts, so displaying what was
read changes nothing, and signatures of one kind that are displayed alike have
the same parts. -/
theorem display_reads_again_and_determines_parts
    (raw : String)
    (kind : Kind)
    (signature : Signature)
    (accepted : parse raw kind = .ok signature) :
    (∃ again,
      parse signature.display kind = .ok again ∧
        again.qualifier = signature.qualifier ∧
        again.member = signature.member ∧
        again.arguments = signature.arguments ∧
        again.display = signature.display) ∧
      ∀ otherRaw other,
        parse otherRaw kind = .ok other →
          other.display = signature.display →
            other.qualifier = signature.qualifier ∧
              other.member = signature.member ∧
              other.arguments = signature.arguments := by
  have reads := parse_display accepted
  refine ⟨⟨_, reads, rfl, rfl, rfl, rfl⟩, ?_⟩
  intro otherRaw other otherAccepted same
  have otherReads := parse_display otherAccepted
  rw [same, reads] at otherReads
  obtain ⟨-, sameQualifier, sameMember, sameArguments⟩ :=
    Signature.mk.inj (Except.ok.inj otherReads)
  exact ⟨sameQualifier.symm, sameMember.symm, sameArguments.symm⟩

/-- Blanks around the commas of an argument list are lost in the displayed
text, and its parts are not. -/
theorem display_of_spaced_arguments :
    let raw := "Map.Insert( K key ,Pair[<,],>\t)"
    let signature : Signature :=
      ⟨raw, some "Map", "Insert", some ["K key", "Pair[<,],>"]⟩
    parse raw .method = .ok signature ∧
      signature.display = "Map.Insert(K key, Pair[<,],>)" ∧
      ∃ again,
        parse "Map.Insert(K key, Pair[<,],>)" .method = .ok again ∧
          again.arguments = some ["K key", "Pair[<,],>"] := by
  intro raw signature
  have accepted : parse raw .method = .ok signature := by
    decide +kernel
  have shown :
      signature.display = "Map.Insert(K key, Pair[<,],>)" := by
    decide +kernel
  obtain ⟨⟨again, reads, -, -, arguments, -⟩, -⟩ :=
    display_reads_again_and_determines_parts raw .method signature
      accepted
  rw [shown] at reads
  exact ⟨accepted, shown, again, reads, arguments⟩

end ApiIndex.Signature

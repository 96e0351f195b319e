import ApiIndex.Json.Printer
import ApiIndex.Proofs.Json.Reading

namespace ApiIndex.Json

/-!
# What the layouts write

Both layouts of a value write it: every character of a text is spelled so that it
is read as itself, a natural number is written in digits without a superfluous
zero, and line breaks stand only where blanks may stand.  A value that is laid
out and read again is therefore the same value.
-/

section Strings

/-- The hexadecimal digits of a control are read as the control. -/
theorem hexUnit?_hexDigit
    {code : Nat}
    (isControl : code < 0x20) :
    hexUnit? '0' '0' (hexDigit (code / 16)) (hexDigit (code % 16)) =
      some code := by
  revert code
  decide

/-- An escaped character is one piece, the character. -/
theorem Spells.escape_append
    {pieces : List Piece}
    {text : List Char}
    (character : Char)
    (spells : Spells pieces text) :
    Spells (.character character :: pieces)
      (escape character ++ text) := by
  have byLetter
      {letter : Char}
      (escapes : letterEscape? letter = some character) :
      Spells (.character character :: pieces)
        (['\\', letter] ++ text) :=
    .letter escapes spells
  unfold escape
  split_ifs with isQuote isEscape isBackspace isFeed isBreak isReturn isTab
    isControl
  · exact byLetter (by rw [isQuote]; rfl)
  · exact byLetter (by rw [isEscape]; rfl)
  · exact byLetter (by rw [isBackspace]; rfl)
  · exact byLetter (by rw [isFeed]; rfl)
  · exact byLetter (by rw [isBreak]; rfl)
  · exact byLetter (by rw [isReturn]; rfl)
  · exact byLetter (by rw [isTab]; rfl)
  · have piece :
        Piece.ofUnit character.toNat = .character character := by
      rw [Piece.ofUnit, if_neg (by omega), if_neg (by omega),
        Char.ofNat_toNat]
    rw [← piece]
    exact .unit (hexUnit?_hexDigit isControl) spells
  · exact .plain isQuote isEscape (by omega) spells

theorem spells_escaped
    (text : List Char) :
    Spells (text.map .character) (text.flatMap escape) := by
  induction text with
  | nil =>
      exact .nil
  | cons character rest inductionHypothesis =>
      rw [List.map_cons, List.flatMap_cons]
      exact inductionHypothesis.escape_append character

theorem joinPieces?_characters
    (text : List Char) :
    joinPieces? (text.map .character) = some text := by
  induction text with
  | nil =>
      rfl
  | cons character rest inductionHypothesis =>
      rw [List.map_cons, joinPieces?, inductionHypothesis]
      rfl

/-- A literal writes its text, and the literal for no text writes none. -/
theorem writesString_stringLiteral
    (value : Option String) :
    WritesString value (stringLiteral value) := by
  cases value with
  | some value =>
      have quoted := WritesString.quoted (spells_escaped value.toList)
      rw [joinPieces?_characters, Option.map_some,
        String.ofList_toList] at quoted
      exact quoted
  | none =>
      have half : hexUnit? 'd' '8' '0' '0' = some 0xd800 := by
        decide
      exact WritesString.quoted (.unit half .nil)

end Strings

section Numbers

theorem decimalValue_eq_ofDigitChars
    (digits : List Char) :
    decimalValue digits = Nat.ofDigitChars 10 digits 0 := by
  simp [decimalValue, Nat.ofDigitChars_eq_foldl, Nat.mul_comm]

theorem decimalValue_toDigits
    (value : Nat) :
    decimalValue (Nat.toDigits 10 value) = value := by
  rw [decimalValue_eq_ofDigitChars, Nat.ofDigitChars_ten_toDigits]

/-- The digits of a natural number start with zero only for zero. -/
theorem isWhole_toDigits
    (value : Nat) :
    IsWhole (Nat.toDigits 10 value) := by
  have leading :
      (Nat.toDigits 10 value).head? = some '0' → value = 0 := by
    induction value using Nat.strongRecOn with
    | ind value inductionHypothesis =>
        intro isZero
        rcases Nat.lt_or_ge value 10 with isSmall | isLarge
        · simpa [Nat.toDigits_of_lt_base isSmall] using isZero
        · rw [Nat.toDigits_of_base_le (by decide) isLarge,
            List.head?_append] at isZero
          obtain ⟨first, isFirst⟩ :
              ∃ first, (Nat.toDigits 10 (value / 10)).head? = some first :=
            ⟨_, List.head?_eq_some_head Nat.toDigits_ne_nil⟩
          rw [isFirst, Option.some_or] at isZero
          have isNone :=
            inductionHypothesis (value / 10) (by omega)
              (isFirst.trans isZero)
          omega
  refine ⟨⟨Nat.toDigits_ne_nil, ?_⟩, ?_⟩
  · intro digit member
    have decimal :=
      Nat.isDigit_of_mem_toDigits (by decide) (by decide) member
    simpa [Text.isAsciiDigit, Char.isDigit, Char.le_def] using decimal
  · intro isZero
    rw [leading isZero, Nat.toDigits_zero]

end Numbers

section Layouts

variable {α : Type} {WritesOne : α → List Char → Prop}

/-- Nothing at all may stand between two tokens. -/
theorem isBlank_nil :
    IsBlank [] := by
  simp [IsBlank]

/-- A layout that puts a blank before each thing and a comma between them writes
them, behind the first blank. -/
theorem exists_separated_of_layout
    {layout : List α → List Char}
    {layoutOne : α → List Char}
    {blank : List Char}
    {items : List α}
    (isBlank : IsBlank blank)
    (single : ∀ item, layout [item] = blank ++ layoutOne item)
    (more :
      ∀ item next rest,
        layout (item :: next :: rest) =
          blank ++ layoutOne item ++ ',' :: layout (next :: rest))
    (nonempty : items ≠ [])
    (each : ∀ item ∈ items, WritesOne item (layoutOne item)) :
    ∃ text,
      layout items = blank ++ text ∧ Separated WritesOne items text := by
  induction items with
  | nil =>
      exact (nonempty rfl).elim
  | cons item items inductionHypothesis =>
      rw [List.forall_mem_cons] at each
      cases items with
      | nil =>
          exact ⟨_, single item, .last each.1⟩
      | cons next items =>
          obtain ⟨text, shape, rest⟩ :=
            inductionHypothesis (by simp) each.2
          exact ⟨_, by simp [more, shape],
            .more each.1 isBlank_nil isBlank rest⟩

theorem isBlank_lineBreak
    (level : Nat) :
    IsBlank (lineBreak level) := by
  intro character member
  rcases List.mem_cons.mp member with rfl | isIndent
  · decide
  · rw [List.eq_of_mem_replicate isIndent]
    decide

/-- The compact layout writes the value. -/
theorem writesValue_compact
    {value : Json}
    (expressible : Expressible value) :
    WritesValue value value.compact := by
  induction expressible with
  | null =>
      exact .null
  | bool value =>
      cases value
      · exact .no
      · exact .yes
  | natural value =>
      have written := WritesValue.natural (isWhole_toDigits value)
      rw [decimalValue_toDigits] at written
      exact written
  | number isNumber =>
      simpa [compact] using WritesValue.number isNumber
  | string value =>
      exact .string (writesString_stringLiteral value)
  | @array items _ inductionHypothesis =>
      by_cases isEmpty : items = []
      · subst items
        exact .emptyArray isBlank_nil
      · obtain ⟨text, shape, written⟩ :=
          @exists_separated_of_layout _ _ compactItems compact [] items
            isBlank_nil (fun _ => rfl) (fun _ _ _ => rfl) isEmpty
              inductionHypothesis
        simpa [compact, shape] using
          WritesValue.array isBlank_nil written isBlank_nil
  | @object members _ inductionHypothesis =>
      by_cases isEmpty : members = []
      · subst members
        exact .emptyObject isBlank_nil
      · have each :
            ∀ member ∈ members,
              WritesMember member (compactMember member) := by
          rintro ⟨key, value⟩ member
          simpa [compactMember] using
            WritesMember.pair (writesString_stringLiteral key) isBlank_nil
              isBlank_nil (inductionHypothesis _ member)
        obtain ⟨text, shape, written⟩ :=
          @exists_separated_of_layout _ _ compactMembers compactMember []
            members isBlank_nil (fun _ => rfl) (fun _ _ _ => rfl) isEmpty each
        simpa [compact, shape] using
          WritesValue.object isBlank_nil written isBlank_nil

/-- The indented layout writes the value, at every level. -/
theorem writesValue_indented
    {value : Json}
    (expressible : Expressible value)
    (level : Nat) :
    WritesValue value (value.indented level) := by
  induction expressible generalizing level with
  | null =>
      exact .null
  | bool value =>
      cases value
      · exact .no
      · exact .yes
  | natural value =>
      have written := WritesValue.natural (isWhole_toDigits value)
      rw [decimalValue_toDigits] at written
      exact written
  | number isNumber =>
      simpa [indented] using WritesValue.number isNumber
  | string value =>
      exact .string (writesString_stringLiteral value)
  | @array items _ inductionHypothesis =>
      cases items with
      | nil =>
          exact .emptyArray isBlank_nil
      | cons first rest =>
          obtain ⟨text, shape, written⟩ :=
            @exists_separated_of_layout _ _ (indentedItems (level + 1))
              (indented (level + 1)) (lineBreak (level + 1))
              (first :: rest) (isBlank_lineBreak _) (fun _ => rfl)
              (fun _ _ _ => rfl) (by simp)
              fun item member => inductionHypothesis item member (level + 1)
          simpa [indented, shape] using
            WritesValue.array (isBlank_lineBreak (level + 1)) written
              (isBlank_lineBreak level)
  | @object members _ inductionHypothesis =>
      cases members with
      | nil =>
          exact .emptyObject isBlank_nil
      | cons first rest =>
          have space : IsBlank [' '] := by
            simp [IsBlank, isGap]
          have each :
              ∀ member ∈ first :: rest,
                WritesMember member (indentedMember (level + 1) member) := by
            rintro ⟨key, value⟩ member
            simpa [indentedMember] using
              WritesMember.pair (writesString_stringLiteral key) isBlank_nil
                space (inductionHypothesis _ member (level + 1))
          obtain ⟨text, shape, written⟩ :=
            @exists_separated_of_layout _ _ (indentedMembers (level + 1))
              (indentedMember (level + 1)) (lineBreak (level + 1))
              (first :: rest) (isBlank_lineBreak _) (fun _ => rfl)
              (fun _ _ _ => rfl) (by simp) each
          simpa [indented, shape] using
            WritesValue.object (isBlank_lineBreak (level + 1)) written
              (isBlank_lineBreak level)

/-- The compact text of a value writes it. -/
theorem writes_render
    {value : Json}
    (expressible : Expressible value) :
    Writes value value.render := by
  simpa [render] using
    Writes.between isBlank_nil (writesValue_compact expressible) isBlank_nil

/-- The indented text of a value writes it. -/
theorem writes_pretty
    {value : Json}
    (expressible : Expressible value) :
    Writes value value.pretty := by
  simpa [pretty] using
    Writes.between isBlank_nil (writesValue_indented expressible 0) isBlank_nil

end Layouts

end ApiIndex.Json

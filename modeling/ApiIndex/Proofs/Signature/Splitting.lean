import ApiIndex.Proofs.Signature.Entries

namespace ApiIndex.Bracket

/-!
# Splitting undoes joining

Entries that are balanced, trimmed and free of commas at top level may be joined
with commas and padded with blanks in any way: splitting the text gives the
entries back.  What splitting gives is always a list of such entries, one more
than there are commas at top level, so a list of arguments that is shown and
split again is the same list.
-/

instance
    (text : List Char) :
    Decidable (Level text) :=
  decidable_of_iff
    (∀ family ∈ Family.all, openers family text = closers family text)
    ⟨fun listed family => listed family (by cases family <;> decide),
      fun level family _ => level family⟩

/-- How often a character occurs at top level. -/
def countTop
    (character : Char)
    (text : List Char) :
    Nat :=
  (List.range text.length).countP fun position =>
    text[position]? = some character ∧ Level (text.take position)

section Counting

variable {character : Char} {left right text : List Char}

/-- Behind a level text, the occurrences in the rest are added. -/
theorem countTop_append
    (leftLevel : Level left) :
    countTop character (left ++ right) =
      countTop character left + countTop character right := by
  simp only [countTop, List.length_append, List.range_add,
    List.countP_append, List.countP_map]
  congr 1
  · apply List.countP_congr
    intro position member
    have inside : position < left.length := by
      simpa using member
    simp only [decide_eq_true_eq, List.getElem?_append_left inside,
      List.take_append_of_le_length (Nat.le_of_lt inside)]
  · apply List.countP_congr
    intro position _
    have taken :
        (left ++ right).take (left.length + position) =
          left ++ right.take position :=
      List.take_length_add_append position
    simp only [Function.comp_apply, decide_eq_true_eq, taken,
      Level.append_iff leftLevel,
      List.getElem?_append_right (Nat.le_add_right _ _),
      Nat.add_sub_cancel_left]

/-- A character is counted unless it occurs nowhere at top level. -/
theorem countTop_eq_zero_iff :
    countTop character text = 0 ↔ NoneTop character text := by
  rw [countTop, List.countP_eq_zero]
  simp only [List.mem_range, decide_eq_true_eq, not_and]
  constructor
  · rintro noneCounted before after rfl level
    exact noneCounted before.length (by simp) (by simp) (by simpa using level)
  · intro noneTop position inside stands
    apply noneTop _ (text.drop (position + 1))
    obtain ⟨_, rfl⟩ := List.getElem?_eq_some_iff.mp stands
    rw [List.getElem_cons_drop, List.take_append_drop]

/-- A separator by itself stands at top level. -/
theorem countTop_singleton :
    countTop character [character] = 1 := by
  have level : Level [] := .nil
  simp [countTop, level]

/-- There is one piece more than there are separators at top level. -/
theorem Pieces.length_eq
    {pieces : List (List Char)}
    (separates : isSeparator character = true)
    (divided : Pieces character text pieces) :
    pieces.length = countTop character text + 1 := by
  have neither := neither_of_isSeparator separates
  induction pieces generalizing text with
  | nil =>
      exact (divided.nonempty rfl).elim
  | cons piece pieces inductionHypothesis =>
      have level := divided.level piece (by simp)
      have noneTop := divided.whole piece (by simp)
      cases pieces with
      | nil =>
          have same : text = piece := by
            simpa using divided.joined
          simp [same, countTop_eq_zero_iff.mpr noneTop]
      | cons next pieces =>
          obtain ⟨rest, rfl, restDivided⟩ := divided.tail
          have alone : Level [character] :=
            (Level.cons_iff neither.1 neither.2).mpr .nil
          have behind :
              countTop character (character :: rest) =
                1 + countTop character rest := by
            rw [← List.singleton_append, countTop_append alone,
              countTop_singleton]
          rw [List.length_cons, inductionHypothesis restDivided,
            countTop_append level, countTop_eq_zero_iff.mpr noneTop, behind]
          omega

end Counting

end ApiIndex.Bracket

namespace ApiIndex.Signature

open ApiIndex.Text
open ApiIndex.Bracket

section Splitting

variable {interior : List Char} {entries : List String}

/-- Splitting fails exactly where scanning fails. -/
theorem splitArguments_eq_error_iff
    {error : Bracket.Error} :
    splitArguments interior = .error error ↔
      scan interior = .error error := by
  cases scanned : scan interior with
  | error other =>
      simp [splitArguments, scanned]
  | ok marks =>
      simp only [splitArguments, scanned, reduceCtorEq, iff_false]
      split <;> simp

/-- A comma is visible, so a blank text is a single piece. -/
theorem eq_singleton_of_blank
    {text : List Char}
    {pieces : List (List Char)}
    (divided : Pieces ',' text pieces)
    (allBlank : ∀ character ∈ text, isBlank character = true) :
    pieces = [text] := by
  obtain ⟨piece, pieces, rfl⟩ :=
    List.exists_cons_of_ne_nil divided.nonempty
  cases pieces with
  | nil =>
      have same : text = piece := by
        simpa using divided.joined
      rw [same]
  | cons next pieces =>
      obtain ⟨rest, rfl, -⟩ := divided.tail
      exact absurd (allBlank ',' (by simp)) (by decide)

/-- Entries are given back however they are joined with commas and padded. -/
theorem splitArguments_of_padded
    {texts : List (List Char)}
    (nonempty : entries ≠ [])
    (notBlank : entries ≠ [""])
    (separable : ∀ entry ∈ entries, Separable entry.toList)
    (padded : List.Forall₂ Padded (entries.map String.toList) texts) :
    splitArguments ([','].intercalate texts) = .ok entries := by
  have areSeparable :
      ∀ entry ∈ entries.map String.toList, Separable entry := by
    simpa using separable
  have balanced :=
    balanced_of_padded (fun entry member =>
      (areSeparable entry member).balanced) padded
  obtain ⟨divided, same⟩ :=
    pieces_of_padded (by simpa using nonempty) areSeparable padded
  have written :
      (texts.map fun text => String.ofList (trim text)) = entries := by
    have shown := congrArg (List.map String.ofList) same
    simpa [Function.comp_def] using shown
  have visible :
      ¬ ∀ character ∈ [','].intercalate texts,
        isBlank character = true := by
    intro allBlank
    rw [eq_singleton_of_blank divided allBlank, List.map_singleton,
      trim_eq_nil_iff.mpr allBlank] at written
    exact notBlank written.symm
  rw [splitArguments_of_pieces balanced visible divided, written]

/-- Entries that are split off are shown as they are joined with padding. -/
theorem splitArguments_shownInterior
    (notBlank : entries ≠ [""])
    (separable : ∀ entry ∈ entries, Separable entry.toList) :
    splitArguments (shownInterior entries) = .ok entries := by
  cases entries with
  | nil =>
      exact (splitArguments_eq_ok_iff.mpr
        ⟨.nil, .blank (by simp)⟩).1
  | cons entry entries =>
      rw [shownInterior, List.map_cons, intercalate_comma_space]
      exact splitArguments_of_padded (by simp) notBlank separable
        (padded_spaces entry.toList (entries.map String.toList))

/-- What splitting gives: nothing for a blank interior, and otherwise the
entries of its pieces. -/
theorem cases_of_splitArguments
    (split : splitArguments interior = .ok entries) :
    Balanced interior ∧
      ((entries = [] ∧ ∀ character ∈ interior, isBlank character = true) ∨
        ((¬ ∀ character ∈ interior, isBlank character = true) ∧
          ∃ pieces,
            Pieces ',' interior pieces ∧
              entries =
                pieces.map fun piece => String.ofList (trim piece))) := by
  cases scanned : scan interior with
  | error error =>
      rw [splitArguments_eq_error_iff.mpr scanned] at split
      contradiction
  | ok marks =>
      have balanced := (scan_eq_ok_iff.mp scanned).1
      refine ⟨balanced, ?_⟩
      by_cases allBlank :
          ∀ character ∈ interior, isBlank character = true
      · have none :=
          (splitArguments_eq_ok_iff.mpr ⟨balanced, .blank allBlank⟩).1
        rw [none] at split
        exact .inl ⟨(Except.ok.inj split).symm, allBlank⟩
      · obtain ⟨pieces, divided⟩ :=
          @Pieces.exists_of_level ',' (by decide) _ balanced.level
        rw [splitArguments_of_pieces balanced allBlank divided] at split
        exact .inr ⟨allBlank, pieces, divided,
          (Except.ok.inj split).symm⟩

/-- Splitting undoes joining.  Entries are given back from every text that joins
them with commas and pads them with blanks, unless the only entry is empty.
What splitting gives is such a list, with one entry more than there are commas
at top level, or no entry for a blank interior; it is given back when it is
shown.  Splitting fails exactly where scanning does, for the same reason. -/
theorem splitArguments_inverts_joining :
    (∀ (entries : List String) (texts : List (List Char)),
      entries ≠ [] → entries ≠ [""] →
        (∀ entry ∈ entries, Separable entry.toList) →
          List.Forall₂ Padded (entries.map String.toList) texts →
            splitArguments ([','].intercalate texts) = .ok entries) ∧
      (∀ (interior : List Char) (entries : List String),
        splitArguments interior = .ok entries →
          (entries = [] ↔
              ∀ character ∈ interior, isBlank character = true) ∧
            (entries ≠ [] →
              entries.length = countTop ',' interior + 1) ∧
            (∀ entry ∈ entries,
              Trimmed entry.toList ∧
                (∃ scanned, scan entry.toList = .ok scanned) ∧
                NoneTop ',' entry.toList) ∧
            splitArguments (", ".intercalate entries).toList =
              .ok entries) ∧
      ∀ (interior : List Char) (error : Bracket.Error),
        splitArguments interior = .error error ↔
          scan interior = .error error := by
  refine ⟨fun _ _ => splitArguments_of_padded, ?_,
    fun _ _ => splitArguments_eq_error_iff⟩
  intro interior entries split
  have shown :
      (", ".intercalate entries).toList = shownInterior entries := by
    simp [shownInterior]
  rw [shown]
  obtain ⟨balanced, ⟨rfl, allBlank⟩ | ⟨someVisible, pieces, divided, rfl⟩⟩ :=
    cases_of_splitArguments split
  · exact ⟨by simpa using allBlank, by simp, by simp,
      splitArguments_shownInterior (by simp) (by simp)⟩
  · have separable :
        ∀ entry ∈ pieces.map fun piece => String.ofList (trim piece),
          Separable entry.toList := by
      intro entry member
      obtain ⟨piece, isPiece, rfl⟩ := List.mem_map.mp member
      rw [String.toList_ofList]
      exact separable_trim
        (divided.balanced (by decide) balanced piece isPiece)
        (divided.whole piece isPiece)
    have notBlank :
        (pieces.map fun piece => String.ofList (trim piece)) ≠ [""] := by
      intro onlyEmpty
      obtain ⟨piece, rfl, isEmpty⟩ := List.map_eq_singleton_iff.mp onlyEmpty
      have same : interior = piece := by
        simpa using divided.joined
      rw [String.ofList_eq_empty_iff, trim_eq_nil_iff, ← same] at isEmpty
      exact someVisible isEmpty
    refine ⟨?_, ?_, ?_, splitArguments_shownInterior notBlank separable⟩
    · simp [divided.nonempty, someVisible]
    · intro _
      rw [List.length_map, divided.length_eq (by decide)]
    · intro entry member
      have isEntry := separable entry member
      exact ⟨isEntry.trimmed,
        ⟨_, scan_eq_ok_iff.mpr ⟨isEntry.balanced, rfl⟩⟩, isEntry.noComma⟩

/-- An entry whose comma stands inside crossing brackets and an empty entry are
given back from a text with uneven blanks. -/
theorem splitArguments_of_crossing_brackets :
    let entries := ["a<b(>,c)", "", "é"]
    let texts := [" a<b(>,c)".toList, [], "é\t ".toList]
    ((∀ entry ∈ entries, Separable entry.toList) ∧
        List.Forall₂ Padded (entries.map String.toList) texts) ∧
      splitArguments ([','].intercalate texts) = .ok entries ∧
      entries.length = countTop ',' ([','].intercalate texts) + 1 ∧
      splitArguments (", ".intercalate entries).toList = .ok entries := by
  intro entries texts
  have separable : ∀ entry ∈ entries, Separable entry.toList := by
    have crossing : Separable "a<b(>,c)".toList :=
      ⟨(scan_eq_ok_iff.mp (by decide +kernel :
          scan "a<b(>,c)".toList = .ok (marked "a<b(>,c)".toList))).1,
        countTop_eq_zero_iff.mp (by decide +kernel),
        .of_any_eq_false (by decide +kernel)⟩
    have empty : Separable "".toList :=
      ⟨.nil, .of_not_mem (by simp), .nil⟩
    have plain : Separable "é".toList :=
      ⟨.of_all (by decide), .of_not_mem (by simp),
        .of_any_eq_false (by decide +kernel)⟩
    simp only [entries, List.forall_mem_cons, List.not_mem_nil,
      false_implies, implies_true, and_true]
    exact ⟨crossing, empty, plain⟩
  have padded : List.Forall₂ Padded (entries.map String.toList) texts := by
    refine .cons ?_ (.cons (.refl []) (.cons ?_ .nil))
    · exact (Padded.refl _).cons (by decide)
    · have blanks : ['\t', ' '].all isBlank = true := by
        decide
      exact ⟨[], ['\t', ' '], by simp, by simp,
        by simpa using blanks⟩
  obtain ⟨givenBack, described, -⟩ := splitArguments_inverts_joining
  have split :=
    givenBack entries texts (by decide) (by decide) separable padded
  obtain ⟨-, counted, -, shown⟩ := described _ _ split
  exact ⟨⟨separable, padded⟩, split, counted (by decide), shown⟩

end Splitting

end ApiIndex.Signature

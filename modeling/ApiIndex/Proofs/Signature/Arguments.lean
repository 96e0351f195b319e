import Mathlib.Data.List.TakeWhile
import ApiIndex.Proofs.Signature.Grammar

namespace ApiIndex.Signature

open ApiIndex.Text
open ApiIndex.Bracket

/-!
# Argument lists are read by their grammar

The argument list starts at the first parenthesis at top level and has to end
the text.  Its interior is split at the commas at top level, and the entries
that the grammar names are the trimmed pieces between them.
-/

/-- Nothing is left of a text by trimming exactly if it is blank. -/
theorem trim_eq_nil_iff
    {text : List Char} :
    trim text = [] ↔ ∀ character ∈ text, isBlank character = true := by
  constructor
  · intro trimmed
    have restBlank :
        ∀ character ∈ text.dropWhile isBlank,
          isBlank character = true := by
      simpa [trim, trimEnd, trimStart] using trimmed
    have nothingLeft : text.dropWhile isBlank = [] := by
      cases shape : text.dropWhile isBlank with
      | nil =>
          rfl
      | cons first rest =>
          have stopped := List.head?_dropWhile_not isBlank text
          have blank := restBlank first (by simp [shape])
          simp [shape, blank] at stopped
    simpa using nothingLeft
  · intro allBlank
    have nothingLeft : text.dropWhile isBlank = [] := by
      simpa using allBlank
    simp [trim, trimEnd, trimStart, nothingLeft]

/-- The entry of a piece is empty exactly if the piece is blank. -/
theorem isEmpty_trim
    (piece : List Char) :
    (String.ofList (trim piece)).isEmpty = piece.all isBlank := by
  rw [Bool.eq_iff_iff, String.isEmpty_iff, String.ofList_eq_empty_iff,
    trim_eq_nil_iff, List.all_eq_true]

/-- Spans that cover pieces of a text cut them out. -/
theorem map_slice_of_stands
    {text : List Char}
    {spans : List Span}
    {pieces : List (List Char)}
    (stands : List.Forall₂ (Stands text) spans pieces) :
    spans.map (slice text) = pieces := by
  induction stands with
  | nil =>
      rfl
  | cons here later inductionHypothesis =>
      obtain ⟨front, back, rfl, -, rfl⟩ := here
      simp only [List.map_cons, inductionHypothesis, slice_append]

section Arguments

variable {interior : List Char} {entries : List String}

/-- The pieces of a balanced interior are what it is split into. -/
theorem splitArguments_of_pieces
    {pieces : List (List Char)}
    (balanced : Balanced interior)
    (notBlank : ¬ ∀ character ∈ interior, isBlank character = true)
    (divided : Pieces ',' interior pieces) :
    splitArguments interior =
      .ok (pieces.map fun piece => String.ofList (trim piece)) := by
  have stands :
      List.Forall₂ (Stands interior)
        ((marked interior).splitTop ',' (marked interior).whole)
        pieces := by
    have whole :=
      @splitTop_pieces ',' [] interior [] pieces (by decide)
        (fun family => (balanced family).covered) .nil divided
    simpa using whole
  have cut :
      ((marked interior).splitTop ',' (marked interior).whole).map
          (fun span => String.ofList (trim (slice interior span))) =
        pieces.map fun piece => String.ofList (trim piece) := by
    rw [← map_slice_of_stands stands, List.map_map]
    rfl
  have scanned := scan_eq_ok_iff.mpr ⟨balanced, rfl⟩
  have someVisible : interior.all isBlank = false := by
    simpa using notBlank
  simp only [splitArguments, scanned, someVisible, Bool.false_eq_true,
    ↓reduceIte, cut]

/-- An interior is split without a blank entry exactly if it is balanced and
has the entries of the grammar. -/
theorem splitArguments_eq_ok_iff :
    splitArguments interior = .ok entries ∧
        entries.findIdx? (·.isEmpty) = none ↔
      Balanced interior ∧ Entries interior entries := by
  constructor
  · rintro ⟨split, noneEmpty⟩
    cases scanned : scan interior with
    | error error =>
        simp [splitArguments, scanned] at split
    | ok marks =>
        obtain ⟨balanced, rfl⟩ := scan_eq_ok_iff.mp scanned
        refine ⟨balanced, ?_⟩
        by_cases allBlank :
            ∀ character ∈ interior, isBlank character = true
        · have noEntries : entries = [] := by
            have blank : interior.all isBlank = true := by
              simpa using allBlank
            simpa [splitArguments, scanned, blank, eq_comm] using split
          subst entries
          exact .blank allBlank
        · obtain ⟨pieces, divided⟩ :=
            @Pieces.exists_of_level ',' (by decide) _ balanced.level
          rw [splitArguments_of_pieces balanced allBlank divided] at split
          cases split
          refine .pieces divided ?_
          intro piece member
          rw [List.findIdx?_eq_none_iff] at noneEmpty
          have visible := noneEmpty _ (List.mem_map_of_mem member)
          rw [isEmpty_trim] at visible
          simpa using visible
  · rintro ⟨balanced, holds⟩
    cases holds with
    | blank allBlank =>
        have blank : interior.all isBlank = true := by
          simpa using allBlank
        have scanned := scan_eq_ok_iff.mpr ⟨balanced, rfl⟩
        simp [splitArguments, scanned, blank]
    | pieces divided noneBlank =>
        have notBlank :
            ¬ ∀ character ∈ interior, isBlank character = true := by
          obtain ⟨piece, rest, rfl⟩ :=
            List.exists_cons_of_ne_nil divided.nonempty
          obtain ⟨more, rfl⟩ := divided.exists_eq_append
          obtain ⟨character, member, visible⟩ :=
            noneBlank piece (by simp)
          intro allBlank
          have blank := allBlank character (by simp [member])
          simp [visible] at blank
        refine ⟨splitArguments_of_pieces balanced notBlank divided, ?_⟩
        rw [List.findIdx?_eq_none_iff]
        intro entry member
        obtain ⟨piece, isPiece, rfl⟩ := List.mem_map.mp member
        rw [isEmpty_trim]
        simpa using noneBlank piece isPiece

/-- A balanced interior is always split: a blank one into no entries, any other
one into the entries of its pieces. -/
theorem splitArguments_of_balanced
    (balanced : Balanced interior) :
    ∃ entries,
      splitArguments interior = .ok entries ∧
        (entries = [] ∨
          ∃ pieces,
            Pieces ',' interior pieces ∧
              entries =
                pieces.map fun piece => String.ofList (trim piece)) := by
  by_cases allBlank : ∀ character ∈ interior, isBlank character = true
  · have split :=
      (splitArguments_eq_ok_iff.mpr ⟨balanced, .blank allBlank⟩).1
    exact ⟨[], split, .inl rfl⟩
  · obtain ⟨pieces, divided⟩ :=
      @Pieces.exists_of_level ',' (by decide) _ balanced.level
    have split := splitArguments_of_pieces balanced allBlank divided
    exact ⟨_, split, .inr ⟨pieces, divided, rfl⟩⟩

/-- A balanced text has no parenthesis at top level, or a name before the first
one and an interior behind it. -/
theorem noneTop_or_exists_argumentList
    {text : List Char}
    (balanced : Balanced text) :
    NoneTop '(' text ∨
      ∃ name interior more,
        text = name ++ '(' :: interior ++ ')' :: more ∧
          Level name ∧ NoneTop '(' name ∧
          BalancedIn .paren interior := by
  rcases noneTop_or_exists_first '(' text with
      noneTop | ⟨name, after, rfl, level, noneTop⟩
  · exact .inl noneTop
  · obtain ⟨interior, more, rfl, interiorBalanced⟩ :=
      @Balanced.exists_interior name after .paren balanced
    exact .inr ⟨name, interior, more, by simp [Family.closer], level,
      noneTop, interiorBalanced⟩

/-- A text with an argument list has its parenthesis at top level, the closer
behind the interior, and the interior between the two. -/
theorem argumentList_of_shape
    {name more : List Char}
    (balanced : Balanced (name ++ '(' :: interior ++ ')' :: more))
    (level : Level name)
    (noneTop : NoneTop '(' name)
    (interiorBalanced : BalancedIn .paren interior) :
    let text := name ++ '(' :: interior ++ ')' :: more
    (marked text).findTop? '(' (marked text).whole =
        some (byteSize name) ∧
      (marked text).closerOf? (byteSize name) =
        some (byteSize (name ++ '(' :: interior)) ∧
      slice text
          ⟨byteSize name + 1, byteSize (name ++ '(' :: interior)⟩ =
        interior ∧
      (byteSize (name ++ '(' :: interior) + 1 = byteSize text ↔
        more = []) := by
  have regrouped :
      name ++ '(' :: interior ++ ')' :: more =
        name ++ '(' :: (interior ++ ')' :: more) := by
    simp
  have covered : Covered .paren name := by
    rw [regrouped] at balanced
    exact (balanced .paren).covered.of_append
  dsimp only
  refine ⟨?_, ?_, ?_, ?_⟩
  · rw [regrouped] at balanced ⊢
    exact findTop?_eq_some (by decide) (.inl (by decide)) balanced
      level noneTop
  · exact @closerOf?_eq_some name interior more .paren covered
      interiorBalanced
  · have parts := slice_append (name ++ ['(']) interior (')' :: more)
    simpa [show '('.utf8Size = 1 by decide] using parts
  · rw [← byteSize_eq_zero]
    simp only [byteSize_append, byteSize_cons,
      show ')'.utf8Size = 1 by decide]
    omega

/-- Where a text with an argument list has its parenthesis at top level, the
list has to be allowed and to end the text, and its entries are split. -/
theorem readArguments_eq_of_shape
    {grammar : Grammar}
    {name more : List Char}
    (balanced : Balanced (name ++ '(' :: interior ++ ')' :: more))
    (level : Level name)
    (noneTop : NoneTop '(' name)
    (interiorBalanced : BalancedIn .paren interior) :
    readArguments (marked (name ++ '(' :: interior ++ ')' :: more))
        grammar =
      if grammar = .plain then
        .error .argumentsNotAllowed
      else if more = [] then
        match splitArguments interior with
        | .error error =>
            .error (.brackets error)
        | .ok arguments =>
            match arguments.findIdx? (·.isEmpty) with
            | some position =>
                .error (.emptyArgument position)
            | none =>
                .ok ⟨byteSize name, some arguments⟩
      else
        .error (.trailingText (byteSize (name ++ '(' :: interior) + 1)) := by
  obtain ⟨found, close, cut, atEnd⟩ :=
    argumentList_of_shape balanced level noneTop interiorBalanced
  cases grammar with
  | plain =>
      simp only [readArguments, found, ↓reduceIte]
  | callable rule =>
      by_cases isEnd : more = []
      · subst isEnd
        cases split : splitArguments interior with
        | error error =>
            simp only [readArguments, found, close, text_marked, cut,
              atEnd, split, ne_eq, not_true_eq_false, reduceCtorEq,
              ↓reduceIte]
        | ok arguments =>
            cases firstEmpty : arguments.findIdx? (·.isEmpty) with
            | some position =>
                simp only [readArguments, found, close, text_marked, cut,
                  atEnd, split, firstEmpty, ne_eq, not_true_eq_false,
                  reduceCtorEq, ↓reduceIte]
            | none =>
                simp only [readArguments, found, close, text_marked, cut,
                  atEnd, split, firstEmpty, ne_eq, not_true_eq_false,
                  reduceCtorEq, ↓reduceIte]
      · simp only [readArguments, found, close, text_marked, atEnd, isEnd,
          ne_eq, not_false_eq_true, reduceCtorEq, ↓reduceIte]

/-- Where a text has no parenthesis at top level, there is no argument list. -/
theorem readArguments_of_noneTop
    {text : List Char}
    {grammar : Grammar}
    (balanced : Balanced text)
    (noneTop : NoneTop '(' text) :
    readArguments (marked text) grammar =
      .ok ⟨byteSize text, none⟩ := by
  simp only [readArguments, text_marked,
    findTop?_eq_none (by decide) balanced noneTop]

/-- Where a text with an argument list has its parenthesis at top level, the
list is read up to the end of the text. -/
private theorem readArguments_of_shape
    {rule : CallableRule}
    {nameEnd : NameEnd}
    {name more : List Char}
    (balanced : Balanced (name ++ '(' :: interior ++ ')' :: more))
    (level : Level name)
    (noneTop : NoneTop '(' name)
    (interiorBalanced : BalancedIn .paren interior) :
    readArguments (marked (name ++ '(' :: interior ++ ')' :: more))
          (.callable rule) = .ok nameEnd ↔
      more = [] ∧
        ∃ entries,
          (Balanced interior ∧ Entries interior entries) ∧
            nameEnd = ⟨byteSize name, some entries⟩ := by
  rw [readArguments_eq_of_shape balanced level noneTop interiorBalanced]
  simp only [reduceCtorEq, ↓reduceIte, ← splitArguments_eq_ok_iff]
  by_cases isEnd : more = []
  · simp only [isEnd, ↓reduceIte, true_and]
    cases splitArguments interior with
    | error error =>
        simp
    | ok entries =>
        cases firstEmpty : entries.findIdx? (·.isEmpty) with
        | some position =>
            simp only [firstEmpty, reduceCtorEq, Except.ok.injEq, false_iff]
            rintro ⟨other, ⟨rfl, noneEmpty⟩, -⟩
            simp [firstEmpty] at noneEmpty
        | none =>
            simp only [firstEmpty, Except.ok.injEq]
            constructor
            · rintro rfl
              exact ⟨entries, ⟨rfl, firstEmpty⟩, rfl⟩
            · rintro ⟨other, ⟨rfl, -⟩, rfl⟩
              rfl
  · simp [isEnd]

/-- The argument list of a balanced text is read exactly if there is none, or
if it ends the text and has the entries of the grammar. -/
theorem readArguments_eq_ok_iff
    {text : List Char}
    {grammar : Grammar}
    {nameEnd : NameEnd}
    (balanced : Balanced text) :
    readArguments (marked text) grammar = .ok nameEnd ↔
      ∃ name interior,
        text = name ++ listText interior ∧
          Level name ∧ NoneTop '(' name ∧
          (∀ inside ∈ interior,
            grammar ≠ .plain ∧ Balanced inside) ∧
          Option.Rel Entries interior nameEnd.arguments ∧
          nameEnd.stop = byteSize name := by
  constructor
  · intro read
    rcases noneTop_or_exists_argumentList balanced with
        noneTop | ⟨name, interior, more, rfl, level, noneTop,
          interiorBalanced⟩
    · rw [readArguments_of_noneTop balanced noneTop] at read
      cases read
      exact ⟨text, none, by simp [listText], balanced.level,
        noneTop, by simp, .none, rfl⟩
    · cases grammar with
      | plain =>
          rw [readArguments_eq_of_shape balanced level noneTop
            interiorBalanced] at read
          simp at read
      | callable rule =>
          obtain ⟨rfl, entries, holds, rfl⟩ :=
            (readArguments_of_shape balanced level noneTop
              interiorBalanced).mp read
          exact ⟨name, some interior, by simp [listText], level, noneTop,
            by simpa using holds.1, .some holds.2, rfl⟩
  · rintro ⟨name, interior, rfl, level, noneTop, conforms, shown, stop⟩
    obtain ⟨stop, arguments⟩ := nameEnd
    subst stop
    cases shown with
    | none =>
        rw [listText, List.append_nil] at balanced ⊢
        exact readArguments_of_noneTop balanced noneTop
    | @some interior entries shown =>
        obtain ⟨notPlain, interiorBalanced⟩ := conforms interior rfl
        cases grammar with
        | plain =>
            exact (notPlain rfl).elim
        | callable rule =>
            have read :=
              (@readArguments_of_shape interior rule
                ⟨byteSize name, some entries⟩ name []
                (by simpa [listText] using balanced) level noneTop
                (interiorBalanced .paren)).mpr
                ⟨rfl, entries, ⟨interiorBalanced, shown⟩, rfl⟩
            simpa [listText] using read

end Arguments

end ApiIndex.Signature

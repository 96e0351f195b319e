import ApiIndex.Proofs.Signature.Arguments
import ApiIndex.Proofs.Text.Trim

namespace ApiIndex.Signature

open ApiIndex.Text
open ApiIndex.Bracket

/-!
# Argument lists written from their entries

An argument list that is shown has a comma and a space between its entries,
whatever blanks the original had around its commas.  Every entry by itself is
balanced, has no comma at top level and is neither blank nor surrounded by
blanks, so the list that is shown is divided at the same commas and has the
same entries.
-/

/-- An entry as it stands in a list that is shown. -/
structure Tidy
    (entry : List Char) : Prop where
  balanced : Balanced entry
  noComma : NoneTop ',' entry
  trimmed : Trimmed entry
  nonempty : entry ≠ []

/-- The interior of an argument list as it is shown. -/
def shownInterior
    (entries : List String) :
    List Char :=
  ", ".toList.intercalate (entries.map String.toList)

/-- A blank text has no bracket. -/
theorem balanced_of_blank
    {text : List Char}
    (blank : ∀ character ∈ text, isBlank character = true) :
    Balanced text := by
  have openerVisible
      (family : Family) :
      isBlank family.opener = false := by
    cases family <;> decide
  have closerVisible
      (family : Family) :
      isBlank family.closer = false := by
    cases family <;> decide
  intro family
  apply BalancedIn.of_not_mem
  · intro member
    simpa [openerVisible] using blank _ member
  · intro member
    simpa [closerVisible] using blank _ member

/-- An entry that a list can be divided into: no bracket reaches out of it, no
comma of its own divides it, and no blank is trimmed from it.  It may be
empty. -/
structure Separable
    (entry : List Char) : Prop where
  balanced : Balanced entry
  noComma : NoneTop ',' entry
  trimmed : Trimmed entry

/-- A text is an entry with blanks around it. -/
def Padded
    (entry text : List Char) :
    Prop :=
  ∃ before after,
    text = before ++ entry ++ after ∧
      (∀ character ∈ before, isBlank character = true) ∧
      ∀ character ∈ after, isBlank character = true

/-- The blanks around a piece take no part in its brackets and commas, so that
trimming makes an entry of it. -/
theorem separable_trim
    {piece : List Char}
    (balanced : Balanced piece)
    (noComma : NoneTop ',' piece) :
    Separable (trim piece) := by
  obtain ⟨before, after, shape, beforeBlank, afterBlank⟩ :=
    exists_blank_around_trim piece
  have beforeLevel := (balanced_of_blank beforeBlank).level
  have afterLevel := (balanced_of_blank afterBlank).level
  have whole : Balanced (before ++ (trim piece ++ after)) := by
    rw [← List.append_assoc, ← shape]
    exact balanced
  have behind := (whole.split beforeLevel).2
  exact {
    balanced := (behind.split (behind.level.of_append afterLevel)).1
    noComma := by
      rw [shape] at noComma
      exact noComma.of_append beforeLevel
    trimmed := trimmed_trim piece
  }

/-- Trimming a piece that is not blank makes it tidy. -/
theorem tidy_trim
    {piece : List Char}
    (balanced : Balanced piece)
    (noComma : NoneTop ',' piece)
    (visible : ∃ character ∈ piece, isBlank character = false) :
    Tidy (trim piece) := by
  have separable := separable_trim balanced noComma
  exact {
    balanced := separable.balanced
    noComma := separable.noComma
    trimmed := separable.trimmed
    nonempty := by
      intro isEmpty
      obtain ⟨character, member, isVisible⟩ := visible
      have isBlank := trim_eq_nil_iff.mp isEmpty character member
      simp [isVisible] at isBlank
  }

section Padding

variable {entry text : List Char}

theorem Padded.refl
    (entry : List Char) :
    Padded entry entry :=
  ⟨[], [], by simp, by simp, by simp⟩

/-- One more blank before a padded entry is padding. -/
theorem Padded.cons
    {character : Char}
    (blank : isBlank character = true)
    (padded : Padded entry text) :
    Padded entry (character :: text) := by
  obtain ⟨before, after, rfl, beforeBlank, afterBlank⟩ := padded
  exact ⟨character :: before, after, rfl,
    by simpa using ⟨blank, beforeBlank⟩, afterBlank⟩

/-- Trimming takes the padding off. -/
theorem Padded.trim_eq
    (padded : Padded entry text)
    (trimmed : Trimmed entry) :
    trim text = entry := by
  obtain ⟨before, after, rfl, beforeBlank, afterBlank⟩ := padded
  exact trimmed.trim_around beforeBlank afterBlank

/-- Padding does not reach the brackets of an entry. -/
theorem Padded.balanced
    (padded : Padded entry text)
    (balanced : Balanced entry) :
    Balanced text := by
  obtain ⟨before, after, rfl, beforeBlank, afterBlank⟩ := padded
  exact ((balanced_of_blank beforeBlank).append balanced).append
    (balanced_of_blank afterBlank)

/-- Padding adds no comma. -/
theorem Padded.noneTop
    (padded : Padded entry text)
    (separable : Separable entry) :
    NoneTop ',' text := by
  obtain ⟨before, after, rfl, beforeBlank, afterBlank⟩ := padded
  have noComma
      {blanks : List Char}
      (areBlank : ∀ character ∈ blanks, isBlank character = true) :
      NoneTop ',' blanks :=
    .of_not_mem fun member => by
      have blank := areBlank _ member
      revert blank
      decide
  have beforeLevel := (balanced_of_blank beforeBlank).level
  have frontLevel : Level (before ++ entry) :=
    (Level.append_iff beforeLevel).mpr separable.balanced.level
  exact .append frontLevel
    (.append beforeLevel (noComma beforeBlank) separable.noComma)
    (noComma afterBlank)

end Padding

/-- Padded entries with commas between them are balanced if the entries are. -/
theorem balanced_of_padded
    {entries texts : List (List Char)}
    (areBalanced : ∀ entry ∈ entries, Balanced entry)
    (padded : List.Forall₂ Padded entries texts) :
    Balanced ([','].intercalate texts) := by
  have separates : Balanced [','] :=
    .of_all (by decide)
  refine .intercalate separates ?_
  induction padded with
  | nil =>
      simp
  | cons here later inductionHypothesis =>
      rw [List.forall_mem_cons] at areBalanced ⊢
      exact ⟨here.balanced areBalanced.1,
        inductionHypothesis areBalanced.2⟩

/-- Padded entries with commas between them are divided at these commas, and
trimming gives the entries. -/
theorem pieces_of_padded
    {entries texts : List (List Char)}
    (nonempty : entries ≠ [])
    (separable : ∀ entry ∈ entries, Separable entry)
    (padded : List.Forall₂ Padded entries texts) :
    Pieces ',' ([','].intercalate texts) texts ∧
      texts.map trim = entries := by
  induction padded with
  | nil =>
      exact (nonempty rfl).elim
  | @cons entry text entries texts here later inductionHypothesis =>
      rw [List.forall_mem_cons] at separable
      obtain ⟨isEntry, areEntries⟩ := separable
      have level := (here.balanced isEntry.balanced).level
      have noneTop := here.noneTop isEntry
      have same := here.trim_eq isEntry.trimmed
      cases later with
      | nil =>
          refine ⟨?_, by simp [same]⟩
          simpa using Pieces.singleton level noneTop
      | cons next others =>
          obtain ⟨divided, sameLater⟩ :=
            inductionHypothesis (by simp) areEntries
          refine ⟨?_, by rw [List.map_cons, same, sameLater]⟩
          rw [List.intercalate_cons_cons]
          simpa using Pieces.cons level noneTop divided

/-- A space behind every comma is a blank before every entry but the first. -/
theorem intercalate_comma_space
    (entry : List Char)
    (entries : List (List Char)) :
    ", ".toList.intercalate (entry :: entries) =
      [','].intercalate (entry :: entries.map (' ' :: ·)) := by
  induction entries generalizing entry with
  | nil =>
      simp
  | cons next entries inductionHypothesis =>
      rw [List.intercalate_cons_cons, inductionHypothesis next,
        List.map_cons, List.intercalate_cons_cons,
        List.intercalate_cons_cons_left]
      simp

/-- Entries that are shown one after the other are padded with a space. -/
theorem padded_spaces
    (entry : List Char)
    (entries : List (List Char)) :
    List.Forall₂ Padded (entry :: entries)
      (entry :: entries.map (' ' :: ·)) := by
  refine .cons (.refl entry) ?_
  rw [List.forall₂_map_right_iff, List.forall₂_same]
  exact fun other _ => (Padded.refl other).cons (by decide)

/-- Tidy entries with a comma and a space between them are divided at these
commas again, and only the spaces are trimmed. -/
theorem exists_pieces_intercalate
    {entries : List (List Char)}
    (nonempty : entries ≠ [])
    (tidy : ∀ entry ∈ entries, Tidy entry) :
    ∃ pieces,
      Pieces ',' (", ".toList.intercalate entries) pieces ∧
        pieces.map trim = entries := by
  obtain ⟨entry, entries, rfl⟩ := List.exists_cons_of_ne_nil nonempty
  rw [intercalate_comma_space]
  refine ⟨_, pieces_of_padded nonempty ?_ (padded_spaces entry entries)⟩
  intro other member
  have isTidy := tidy other member
  exact ⟨isTidy.balanced, isTidy.noComma, isTidy.trimmed⟩

/-- An interior that is shown has the entries it is written from. -/
theorem Entries.shown
    {interior : List Char}
    {entries : List String}
    (balanced : Balanced interior)
    (holds : Entries interior entries) :
    Balanced (shownInterior entries) ∧
      Entries (shownInterior entries) entries := by
  cases holds with
  | blank allBlank =>
      exact ⟨.nil, .blank (by simp [shownInterior])⟩
  | @pieces pieces divided noneBlank =>
      have tidy :
          ∀ entry ∈ pieces.map trim, Tidy entry := by
        intro entry member
        obtain ⟨piece, isPiece, rfl⟩ := List.mem_map.mp member
        exact tidy_trim
          (divided.balanced (by decide) balanced piece isPiece)
          (divided.whole piece isPiece) (noneBlank piece isPiece)
      have written :
          shownInterior
              (pieces.map fun piece => String.ofList (trim piece)) =
            ", ".toList.intercalate (pieces.map trim) := by
        simp [shownInterior, Function.comp_def]
      obtain ⟨others, otherDivided, same⟩ :=
        exists_pieces_intercalate
          (by simpa using divided.nonempty) tidy
      have sameEntries :
          (pieces.map fun piece => String.ofList (trim piece)) =
            others.map fun piece => String.ofList (trim piece) := by
        have shown := congrArg (List.map String.ofList) same.symm
        simpa [Function.comp_def] using shown
      refine ⟨?_, ?_⟩
      · rw [written]
        have separates : Balanced ", ".toList :=
          .of_all (by decide)
        exact .intercalate separates fun entry member =>
          (tidy entry member).balanced
      · rw [written, sameEntries]
        refine .pieces otherDivided ?_
        intro other member
        have visible :=
          (tidy (trim other) (same ▸ List.mem_map_of_mem member)).nonempty
        rw [ne_eq, trim_eq_nil_iff] at visible
        simpa using visible

end ApiIndex.Signature

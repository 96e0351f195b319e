import ApiIndex.Proofs.Document.Renumbering

namespace ApiIndex.Document

open ApiIndex.Text

/-!
# Editing body text

A line that is no directive is body text.  Complete lines of it may be inserted
at the start of any line, or deleted, and the same directive lines remain, with
other numbers.  What becomes of the document is then the same up to these
numbers, since its outline is.
-/

/-- Whether a line is a directive for the domain. -/
def isDirectiveLine
    (domain : String)
    (line : List Char) :
    Bool :=
  (readBody? domain (line.dropWhile isGap)).isSome

/-- The directive lines of a text with their numbers. -/
def directiveLines
    (domain text : String) :
    List (List Char × Nat) :=
  ((lines text.toList).zipIdx 1).filter fun numbered =>
    isDirectiveLine domain numbered.1

/-- The number of a line once further lines stand behind the first ones. -/
def raiseBehind
    (kept inserted line : Nat) :
    Nat :=
  if line ≤ kept then
    line
  else
    line + inserted

/-- The number of a line once the lines behind the first ones are gone. -/
def lowerBehind
    (kept deleted line : Nat) :
    Nat :=
  if line ≤ kept then
    line
  else
    line - deleted

/-- Complete lines, none of which is a directive. -/
structure IsBody
    (domain text : String) : Prop where
  ends : EndsLine text.toList
  noDirective :
    ∀ line ∈ lines text.toList, isDirectiveLine domain line = false

/-- A text is edited by inserting body text at the start of a line and by
deleting body text, again and again.  The function leads from the old number of
a line to the new one. -/
inductive BodyEdit
    (domain text : String) :
    String →
      (Nat → Nat) →
      Prop where
  | same :
      BodyEdit domain text text id
  | insert
      {front back body : String}
      {lineOf : Nat → Nat}
      (edit : BodyEdit domain text (front ++ back) lineOf)
      (starts : EndsLine front.toList)
      (isBody : IsBody domain body) :
      BodyEdit domain text (front ++ body ++ back) fun line =>
        raiseBehind (lines front.toList).length
          (lines body.toList).length (lineOf line)
  | delete
      {front back body : String}
      {lineOf : Nat → Nat}
      (edit : BodyEdit domain text (front ++ body ++ back) lineOf)
      (starts : EndsLine front.toList)
      (isBody : IsBody domain body) :
      BodyEdit domain text (front ++ back) fun line =>
        lowerBehind (lines front.toList).length
          (lines body.toList).length (lineOf line)

section Reading

variable {domain text : String}

/-- The number of a line takes no part in how it is read. -/
theorem readLine?_renumber
    (lineOf : Nat → Nat)
    (number : Nat)
    (line : List Char) :
    readLine? domain (lineOf number) line =
      (readLine? domain number line).map (Directive.renumber lineOf) := by
  rw [readLine?, readLine?, Option.map_map]
  rfl

theorem readLine?_of_not_isDirectiveLine
    {number : Nat}
    {line : List Char}
    (isBody : ¬ isDirectiveLine domain line = true) :
    readLine? domain number line = none := by
  rw [isDirectiveLine, Option.not_isSome_iff_eq_none] at isBody
  rw [readLine?, isBody, Option.map_none]

/-- The outline is read off the directive lines. -/
theorem outline_eq_filterMap_directiveLines :
    outline domain text =
      (directiveLines domain text).filterMap fun (line, number) =>
        readLine? domain number line := by
  rw [outline, readLines_eq_filterMap, directiveLines,
    List.filterMap_filter]
  apply List.filterMap_congr
  rintro ⟨line, number⟩ -
  dsimp only
  split
  · rfl
  · next isBody =>
      exact readLine?_of_not_isDirectiveLine isBody

/-- Lines with other numbers are read as the same directives with other
numbers. -/
theorem filterMap_readLine?_renumber
    (lineOf : Nat → Nat)
    (numbered : List (List Char × Nat)) :
    ((numbered.map (Prod.map id lineOf)).filterMap
        fun (line, number) => readLine? domain number line) =
      (numbered.filterMap fun (line, number) =>
        readLine? domain number line).map (Directive.renumber lineOf) := by
  rw [List.filterMap_map, List.map_filterMap]
  exact List.filterMap_congr fun (line, number) _ =>
    readLine?_renumber lineOf number line

/-- The outline follows the numbers of the directive lines. -/
theorem outline_eq_of_directiveLines
    {edited : String}
    {lineOf : Nat → Nat}
    (sameLines :
      directiveLines domain edited =
        (directiveLines domain text).map (Prod.map id lineOf)) :
    outline domain edited =
      (outline domain text).map (Directive.renumber lineOf) := by
  rw [outline_eq_filterMap_directiveLines, sameLines,
    filterMap_readLine?_renumber, ← outline_eq_filterMap_directiveLines]

/-- A directive line stands under its number in the text. -/
theorem mem_directiveLines_iff
    {line : List Char}
    {number : Nat} :
    (line, number) ∈ directiveLines domain text ↔
      (1 ≤ number ∧ (lines text.toList)[number - 1]? = some line) ∧
        isDirectiveLine domain line = true := by
  rw [directiveLines, List.mem_filter,
    List.mk_mem_zipIdx_iff_le_and_getElem?_sub]

theorem number_le_of_mem_directiveLines
    {numbered : List Char × Nat}
    (member : numbered ∈ directiveLines domain text) :
    1 ≤ numbered.2 ∧ numbered.2 ≤ (lines text.toList).length := by
  obtain ⟨⟨positive, found⟩, -⟩ := mem_directiveLines_iff.mp member
  have inBounds := (List.getElem?_eq_some_iff.mp found).1
  exact ⟨positive, by omega⟩

theorem directiveLines_of_isBody
    (isBody : IsBody domain text) :
    directiveLines domain text = [] := by
  rw [directiveLines, List.filter_eq_nil_iff]
  rintro ⟨line, number⟩ member
  simp [isBody.noDirective line (List.fst_mem_of_mem_zipIdx member)]

end Reading

section Composing

variable {domain front back body : String}

/-- The directive lines behind complete lines come behind the directive lines
among these, numbered on. -/
theorem directiveLines_append
    (starts : EndsLine front.toList)
    (back : String) :
    directiveLines domain (front ++ back) =
      directiveLines domain front ++
        (directiveLines domain back).map
          (Prod.map id (· + (lines front.toList).length)) := by
  rw [directiveLines, String.toList_append, lines_append starts,
    List.zipIdx_append, List.filter_append, Nat.add_comm,
    ← List.map_snd_add_zipIdx_eq_zipIdx, List.filter_map]
  rfl

/-- The directives behind complete lines come behind the directives among these,
with the number of these lines added to their own. -/
theorem outline_append
    (starts : EndsLine front.toList)
    (back : String) :
    outline domain (front ++ back) =
      outline domain front ++
        (outline domain back).map
          (Directive.renumber (· + (lines front.toList).length)) := by
  rw [outline_eq_filterMap_directiveLines, directiveLines_append starts,
    List.filterMap_append, filterMap_readLine?_renumber,
    ← outline_eq_filterMap_directiveLines,
    ← outline_eq_filterMap_directiveLines]

theorem raiseBehind_of_le
    {kept line : Nat}
    (inFront : line ≤ kept)
    (inserted : Nat) :
    raiseBehind kept inserted line = line :=
  if_pos inFront

theorem raiseBehind_add
    {line : Nat}
    (positive : 1 ≤ line)
    (kept inserted : Nat) :
    raiseBehind kept inserted (line + kept) = line + (kept + inserted) := by
  rw [raiseBehind, if_neg (by omega), Nat.add_assoc]

theorem lowerBehind_raiseBehind
    (kept count line : Nat) :
    lowerBehind kept count (raiseBehind kept count line) = line := by
  by_cases inFront : line ≤ kept
  · simp [raiseBehind, lowerBehind, inFront]
  · have behind : ¬ line + count ≤ kept := by
      omega
    simp [raiseBehind, lowerBehind, inFront, behind]

/-- Inserting body text at the start of a line moves the directive lines behind
it on. -/
theorem directiveLines_insert
    (starts : EndsLine front.toList)
    (isBody : IsBody domain body)
    (back : String) :
    directiveLines domain (front ++ body ++ back) =
      (directiveLines domain (front ++ back)).map
        (Prod.map id
          (raiseBehind (lines front.toList).length
            (lines body.toList).length)) := by
  have bodyStarts : EndsLine (front ++ body).toList := by
    rw [String.toList_append]
    exact starts.append isBody.ends
  have lineCount :
      (lines (front ++ body).toList).length =
        (lines front.toList).length + (lines body.toList).length := by
    rw [String.toList_append, lines_append starts, List.length_append]
  have frontKept :
      (directiveLines domain front).map
          (Prod.map id
            (raiseBehind (lines front.toList).length
              (lines body.toList).length)) =
        directiveLines domain front := by
    refine (List.map_congr_left ?_).trans (List.map_id _)
    intro numbered member
    have inFront := (number_le_of_mem_directiveLines member).2
    exact Prod.ext rfl (raiseBehind_of_le inFront _)
  have backRaised :
      (directiveLines domain back).map
          (Prod.map id
            (· + ((lines front.toList).length +
              (lines body.toList).length))) =
        ((directiveLines domain back).map
          (Prod.map id (· + (lines front.toList).length))).map
            (Prod.map id
              (raiseBehind (lines front.toList).length
                (lines body.toList).length)) := by
    rw [List.map_map]
    refine List.map_congr_left ?_
    intro numbered member
    have positive := (number_le_of_mem_directiveLines member).1
    exact Prod.ext rfl (raiseBehind_add positive _ _).symm
  rw [directiveLines_append bodyStarts, directiveLines_append starts,
    directiveLines_append starts, directiveLines_of_isBody isBody,
    List.map_append, frontKept, lineCount, backRaised, List.map_nil,
    List.append_nil]

/-- Deleting body text moves the directive lines behind it back. -/
theorem directiveLines_delete
    (starts : EndsLine front.toList)
    (isBody : IsBody domain body)
    (back : String) :
    directiveLines domain (front ++ back) =
      (directiveLines domain (front ++ body ++ back)).map
        (Prod.map id
          (lowerBehind (lines front.toList).length
            (lines body.toList).length)) := by
  rw [directiveLines_insert starts isBody, List.map_map]
  refine ((List.map_congr_left ?_).trans (List.map_id _)).symm
  intro numbered _
  exact Prod.ext rfl (lowerBehind_raiseBehind _ _ _)

end Composing

section Editing

variable {domain text edited : String} {lineOf : Nat → Nat}

/-- Editing body text leaves the directive lines alone, up to their numbers. -/
theorem BodyEdit.directiveLines_eq
    (edit : BodyEdit domain text edited lineOf) :
    directiveLines domain edited =
      (directiveLines domain text).map (Prod.map id lineOf) := by
  induction edit with
  | same =>
      exact (List.map_id _).symm
  | insert edit starts isBody inductionHypothesis =>
      rw [directiveLines_insert starts isBody, inductionHypothesis,
        List.map_map]
      rfl
  | delete edit starts isBody inductionHypothesis =>
      rw [directiveLines_delete starts isBody, inductionHypothesis,
        List.map_map]
      rfl

/-- The directives behind complete lines are those of the text behind, with the
number of the complete lines added to their own.  Editing body text therefore
keeps the directive lines and renumbers their directives, and what becomes of
the document is the same up to these numbers. -/
theorem body_text_only_shifts_lines :
    (∀ domain front back : String,
      EndsLine front.toList →
        outline domain (front ++ back) =
          outline domain front ++
            (outline domain back).map
              (Directive.renumber (· + (lines front.toList).length))) ∧
      ∀ (config : Config) (name text edited : String)
          (lineOf : Nat → Nat),
        BodyEdit config.domain text edited lineOf →
          directiveLines config.domain edited =
              (directiveLines config.domain text).map
                (Prod.map id lineOf) ∧
            outline config.domain edited =
              (outline config.domain text).map
                (Directive.renumber lineOf) ∧
            Renumbers lineOf (outline config.domain text)
              (build config name text) (build config name edited) := by
  refine ⟨fun _ _ back starts => outline_append starts back, ?_⟩
  intro config name text edited lineOf edit
  have sameLines := edit.directiveLines_eq
  have sameOutline := outline_eq_of_directiveLines sameLines
  refine ⟨sameLines, sameOutline, ?_⟩
  rw [build, build, sameOutline]
  exact ofDirectives_renumber name config.nesting lineOf
    (outline config.domain text)

/-- Body text between a class and its duplicate is deleted, and other body text
is inserted in front of both.  The duplicate is reported on its new line and
quotes the new line of the class. -/
theorem duplicate_amid_edited_body :
    let text := ".. dn:class:: Map\r\n  Old.\n.. dn:class:: Map\n"
    let kept := ".. dn:class:: Map\r\n.. dn:class:: Map\n"
    let edited := "New.\n\n" ++ kept
    EndsLine "New.\n\n".toList ∧
      outline "dn" edited =
        (outline "dn" kept).map (Directive.renumber (· + 2)) ∧
      ∃ lineOf,
        BodyEdit "dn" text edited lineOf ∧
          lineOf 1 = 3 ∧ lineOf 3 = 4 ∧
          Renumbers lineOf (outline "dn" text) (build {} "maps" text)
            (build {} "maps" edited) ∧
          (build {} "maps" text).diagnostics =
            [⟨"maps", 3, .warning,
              "Duplicate reference target: class \"Map\" (first" ++
                " declared at maps:1#dn-class-Map)"⟩] ∧
          (build {} "maps" edited).diagnostics =
            [⟨"maps", 4, .warning,
              "Duplicate reference target: class \"Map\" (first" ++
                " declared at maps:3#dn-class-Map)"⟩] := by
  intro text kept edited
  have newEnds : EndsLine "New.\n\n".toList := by
    decide +kernel
  have oldIsBody : IsBody "dn" "  Old.\n" :=
    ⟨by decide +kernel, by decide +kernel⟩
  have newIsBody : IsBody "dn" "New.\n\n" :=
    ⟨newEnds, by decide +kernel⟩
  obtain ⟨appended, edits⟩ := body_text_only_shifts_lines
  have outlined := appended "dn" "New.\n\n" kept newEnds
  have whole :
      BodyEdit "dn" text
        (".. dn:class:: Map\r\n" ++ "  Old.\n" ++
          ".. dn:class:: Map\n") id :=
    .same
  have deleted :
      BodyEdit "dn" text
        (".. dn:class:: Map\r\n" ++ ".. dn:class:: Map\n") _ :=
    .delete whole (by decide +kernel) oldIsBody
  have inserted : BodyEdit "dn" text ("" ++ "New.\n\n" ++ kept) _ :=
    .insert deleted (by decide +kernel) newIsBody
  refine ⟨newEnds, ?_, _, inserted, by decide +kernel, by decide +kernel,
    (edits {} "maps" text edited _ inserted).2.2, by decide +kernel,
    by decide +kernel⟩
  have noDirective : outline "dn" "New.\n\n" = [] := by
    decide +kernel
  have twoLines : (lines "New.\n\n".toList).length = 2 := by
    decide +kernel
  rw [noDirective, twoLines] at outlined
  exact outlined

end Editing

end ApiIndex.Document

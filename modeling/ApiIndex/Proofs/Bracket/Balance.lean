import ApiIndex.Bracket.Depth

namespace ApiIndex.Bracket

/-!
# Balanced texts

Balance is counted for each family by itself: no part of the text from its
start on closes more brackets of the family than it opens, and the whole text
opens as many as it closes.  Brackets of different families may cross.

The lemmas below put balanced texts together and take them apart.  A text that
stands between two points at which nothing is open is balanced if the whole is,
and the first closer that has no opener of its own stands behind a balanced
text.
-/

namespace Family

@[simp] theorem opener_inj
    {family other : Family} :
    family.opener = other.opener ↔ family = other := by
  cases family <;> cases other <;> decide

@[simp] theorem closer_inj
    {family other : Family} :
    family.closer = other.closer ↔ family = other := by
  cases family <;> cases other <;> decide

@[simp] theorem opener_ne_closer
    (family other : Family) :
    family.opener ≠ other.closer := by
  cases family <;> cases other <;> decide

@[simp] theorem closer_ne_opener
    (family other : Family) :
    family.closer ≠ other.opener :=
  (opener_ne_closer other family).symm

@[simp] theorem ofCloser?_opener
    (family : Family) :
    ofCloser? family.opener = none := by
  cases family <;> rfl

@[simp] theorem ofOpener?_closer
    (family : Family) :
    ofOpener? family.closer = none := by
  cases family <;> rfl

@[simp] theorem utf8Size_opener
    (family : Family) :
    family.opener.utf8Size = 1 := by
  cases family <;> decide

@[simp] theorem utf8Size_closer
    (family : Family) :
    family.closer.utf8Size = 1 := by
  cases family <;> decide

/-- A character that opens no family is no opener. -/
theorem ne_opener_of_ofOpener?
    {character : Char}
    (opensNothing : ofOpener? character = none)
    (family : Family) :
    character ≠ family.opener := by
  intro same
  simp [same] at opensNothing

/-- A character that closes no family is no closer. -/
theorem ne_closer_of_ofCloser?
    {character : Char}
    (closesNothing : ofCloser? character = none)
    (family : Family) :
    character ≠ family.closer := by
  intro same
  simp [same] at closesNothing

end Family

/-- How many brackets of a family a text opens. -/
def openers
    (family : Family)
    (text : List Char) :
    Nat :=
  text.count family.opener

/-- How many brackets of a family a text closes. -/
def closers
    (family : Family)
    (text : List Char) :
    Nat :=
  text.count family.closer

/-- No part of the text from its start on closes more than it opens. -/
def Covered
    (family : Family)
    (text : List Char) :
    Prop :=
  ∀ front, front <+: text → closers family front ≤ openers family front

/-- The text opens and closes every family equally often. -/
def Level
    (text : List Char) :
    Prop :=
  ∀ family, openers family text = closers family text

/-- The brackets of one family are balanced. -/
structure BalancedIn
    (family : Family)
    (text : List Char) : Prop where
  covered : Covered family text
  level : openers family text = closers family text

/-- The brackets of every family are balanced. -/
def Balanced
    (text : List Char) :
    Prop :=
  ∀ family, BalancedIn family text

section Counting

variable (family other : Family)

@[simp] theorem openers_nil :
    openers family [] = 0 :=
  rfl

@[simp] theorem closers_nil :
    closers family [] = 0 :=
  rfl

@[simp] theorem openers_append
    (left right : List Char) :
    openers family (left ++ right) =
      openers family left + openers family right :=
  List.count_append

@[simp] theorem closers_append
    (left right : List Char) :
    closers family (left ++ right) =
      closers family left + closers family right :=
  List.count_append

theorem openers_cons
    (character : Char)
    (rest : List Char) :
    openers family (character :: rest) =
      openers family rest +
        if character = family.opener then 1 else 0 := by
  simp [openers, List.count_cons]

theorem closers_cons
    (character : Char)
    (rest : List Char) :
    closers family (character :: rest) =
      closers family rest +
        if character = family.closer then 1 else 0 := by
  simp [closers, List.count_cons]

@[simp] theorem openers_cons_opener
    (rest : List Char) :
    openers family (other.opener :: rest) =
      openers family rest + if other = family then 1 else 0 := by
  simp [openers_cons]

@[simp] theorem closers_cons_opener
    (rest : List Char) :
    closers family (other.opener :: rest) = closers family rest := by
  simp [closers_cons]

@[simp] theorem openers_cons_closer
    (rest : List Char) :
    openers family (other.closer :: rest) = openers family rest := by
  simp [openers_cons]

@[simp] theorem closers_cons_closer
    (rest : List Char) :
    closers family (other.closer :: rest) =
      closers family rest + if other = family then 1 else 0 := by
  simp [closers_cons]

end Counting

/-- A character that is no bracket opens nothing. -/
theorem openers_cons_of_ofOpener?
    {character : Char}
    (opensNothing : Family.ofOpener? character = none)
    (family : Family)
    (rest : List Char) :
    openers family (character :: rest) = openers family rest := by
  simp [openers_cons, Family.ne_opener_of_ofOpener? opensNothing]

/-- A character that is no bracket closes nothing. -/
theorem closers_cons_of_ofCloser?
    {character : Char}
    (closesNothing : Family.ofCloser? character = none)
    (family : Family)
    (rest : List Char) :
    closers family (character :: rest) = closers family rest := by
  simp [closers_cons, Family.ne_closer_of_ofCloser? closesNothing]

namespace Covered

variable {family : Family}

theorem nil :
    Covered family [] := by
  intro front isFront
  simp [List.prefix_nil.mp isFront]

/-- A part from the start on of a covered text is covered. -/
theorem of_append
    {left right : List Char}
    (covered : Covered family (left ++ right)) :
    Covered family left :=
  fun front isFront =>
    covered front (isFront.trans (List.prefix_append left right))

/-- A covered text as a whole closes no more than it opens. -/
theorem closers_le
    {text : List Char}
    (covered : Covered family text) :
    closers family text ≤ openers family text :=
  covered text (List.prefix_refl text)

/-- A text is covered behind another if every part of it is made up for by the
two together. -/
theorem append
    {left right : List Char}
    (covered : Covered family left)
    (continued :
      ∀ front, front <+: right →
        closers family (left ++ front) ≤ openers family (left ++ front)) :
    Covered family (left ++ right) := by
  intro front isFront
  rcases List.prefix_or_prefix_of_prefix isFront
      (List.prefix_append left right) with inLeft | ⟨more, rfl⟩
  · exact covered front inLeft
  · exact continued more
      ((List.prefix_append_right_inj left).mp isFront)

/-- One more character keeps a text covered unless it closes too much. -/
theorem append_singleton_iff
    {text : List Char}
    {character : Char} :
    Covered family (text ++ [character]) ↔
      Covered family text ∧
        closers family (text ++ [character]) ≤
          openers family (text ++ [character]) := by
  constructor
  · intro covered
    exact ⟨covered.of_append, covered.closers_le⟩
  · rintro ⟨covered, atEnd⟩
    apply covered.append
    intro front isFront
    rcases List.prefix_cons_iff.mp isFront with rfl | ⟨more, rfl, isMore⟩
    · simpa using covered.closers_le
    · rw [List.prefix_nil.mp isMore]
      exact atEnd

/-- Opening a bracket keeps a text covered. -/
theorem append_opener
    {text : List Char}
    (covered : Covered family text)
    (other : Family) :
    Covered family (text ++ [other.opener]) := by
  have enough := covered.closers_le
  apply append_singleton_iff.mpr
  refine ⟨covered, ?_⟩
  simp only [openers_append, closers_append, openers_cons_opener,
    closers_cons_opener, openers_nil, closers_nil]
  omega

/-- Closing a bracket keeps a text covered where a bracket of the same family
is open. -/
theorem append_closer
    {text : List Char}
    {other : Family}
    (covered : Covered family text)
    (someOpen : closers other text < openers other text) :
    Covered family (text ++ [other.closer]) := by
  have enough := covered.closers_le
  apply append_singleton_iff.mpr
  refine ⟨covered, ?_⟩
  by_cases same : other = family
  · subst other
    simp only [openers_append, closers_append, openers_cons_closer,
      closers_cons_closer, openers_nil, closers_nil, ↓reduceIte]
    omega
  · simp [same, enough]

/-- Any other character keeps a text covered. -/
theorem append_other
    {text : List Char}
    {character : Char}
    (covered : Covered family text)
    (opensNothing : Family.ofOpener? character = none)
    (closesNothing : Family.ofCloser? character = none) :
    Covered family (text ++ [character]) := by
  apply append_singleton_iff.mpr
  refine ⟨covered, ?_⟩
  simpa [openers_cons_of_ofOpener? opensNothing,
    closers_cons_of_ofCloser? closesNothing] using covered.closers_le

/--
The first closer without an opener of its own stands behind a text that is
balanced in its family.
-/
private theorem exists_balancedIn_of_not_append
    {text rest : List Char}
    (covered : Covered family text)
    (uncovered : ¬ Covered family (text ++ rest)) :
    ∃ interior back,
      text ++ rest = interior ++ family.closer :: back ∧
        BalancedIn family interior := by
  induction rest generalizing text with
  | nil =>
      simp [covered] at uncovered
  | cons character rest inductionHypothesis =>
      by_cases next : Covered family (text ++ [character])
      · have split :
            text ++ character :: rest = (text ++ [character]) ++ rest := by
          simp
        rw [split] at uncovered ⊢
        exact inductionHypothesis next uncovered
      · have tooMany :
            openers family (text ++ [character]) <
              closers family (text ++ [character]) := by
          rw [append_singleton_iff] at next
          exact Nat.lt_of_not_le fun enough => next ⟨covered, enough⟩
        have before := covered.closers_le
        simp only [openers_append, closers_append, openers_cons,
          closers_cons, openers_nil, closers_nil] at tooMany
        have closes : character = family.closer := by
          apply Decidable.byContradiction
          intro different
          simp only [different, ↓reduceIte] at tooMany
          omega
        subst character
        simp only [Family.closer_ne_opener, ↓reduceIte] at tooMany
        exact ⟨text, rest, rfl, covered, by omega⟩

/-- A text that is not covered has a first closer too many. -/
theorem exists_of_not
    {text : List Char}
    (uncovered : ¬ Covered family text) :
    ∃ interior back,
      text = interior ++ family.closer :: back ∧
        BalancedIn family interior := by
  simpa using exists_balancedIn_of_not_append nil uncovered

end Covered

namespace BalancedIn

variable {family : Family}

theorem nil :
    BalancedIn family [] :=
  ⟨.nil, rfl⟩

/-- Two balanced texts behind each other are balanced. -/
theorem append
    {left right : List Char}
    (leftBalanced : BalancedIn family left)
    (rightBalanced : BalancedIn family right) :
    BalancedIn family (left ++ right) where
  covered := by
    apply leftBalanced.covered.append
    intro front isFront
    have within := rightBalanced.covered front isFront
    have before := leftBalanced.level
    simp only [openers_append, closers_append]
    omega
  level := by
    simp [leftBalanced.level, rightBalanced.level]

/-- A text without brackets of the family is balanced. -/
theorem of_not_mem
    {text : List Char}
    (noOpener : family.opener ∉ text)
    (noCloser : family.closer ∉ text) :
    BalancedIn family text where
  covered := by
    intro front isFront
    have absent : family.closer ∉ front :=
      fun member => noCloser (isFront.subset member)
    simp [closers, List.count_eq_zero.mpr absent]
  level := by
    simp [openers, closers, List.count_eq_zero.mpr noOpener,
      List.count_eq_zero.mpr noCloser]

/-- A balanced text that opens no bracket of the family closes none. -/
theorem closer_not_mem
    {text : List Char}
    (balanced : BalancedIn family text)
    (noOpener : family.opener ∉ text) :
    family.closer ∉ text := by
  have level := balanced.level
  rw [openers, List.count_eq_zero.mpr noOpener] at level
  exact List.count_eq_zero.mp level.symm

/-- A balanced text between two brackets of a family is balanced. -/
theorem wrap
    {interior : List Char}
    (balanced : BalancedIn family interior)
    (around : Family) :
    BalancedIn family
      (around.opener :: interior ++ [around.closer]) where
  covered := by
    apply Covered.append_singleton_iff.mpr
    have opened : Covered family [around.opener] :=
      Covered.append_singleton_iff.mpr ⟨.nil, by simp⟩
    refine ⟨?_, ?_⟩
    · apply opened.append
      intro front isFront
      have within := balanced.covered front isFront
      simp only [List.cons_append, List.nil_append,
        openers_cons_opener, closers_cons_opener]
      omega
    · simp [balanced.level]
  level := by
    simp [balanced.level]

/-- Every opener of a family in a text that is balanced in it has its closer,
and what stands between the two is balanced in the family. -/
theorem exists_interior
    {front rest : List Char}
    (balanced : BalancedIn family (front ++ family.opener :: rest)) :
    ∃ interior back,
      rest = interior ++ family.closer :: back ∧
        BalancedIn family interior := by
  apply Covered.exists_of_not
  intro covered
  have before := balanced.covered.of_append.closers_le
  have behind := covered.closers_le
  have whole := balanced.level
  simp only [openers_append, closers_append, openers_cons_opener,
    closers_cons_opener, ↓reduceIte] at whole
  omega

end BalancedIn

namespace Level

theorem nil :
    Level [] :=
  fun _ => rfl

/-- Behind a level text, only the rest counts. -/
theorem append_iff
    {left right : List Char}
    (leftLevel : Level left) :
    Level (left ++ right) ↔ Level right := by
  constructor
  · intro level family
    have whole := level family
    have before := leftLevel family
    simp only [openers_append, closers_append] at whole
    omega
  · intro level family
    simp [leftLevel family, level family]

/-- Before a level text, only the rest counts. -/
theorem of_append
    {left right : List Char}
    (level : Level (left ++ right))
    (rightLevel : Level right) :
    Level left := by
  intro family
  have whole := level family
  have behind := rightLevel family
  simp only [openers_append, closers_append] at whole
  omega

/-- A character that is no bracket does not count. -/
theorem cons_iff
    {character : Char}
    {rest : List Char}
    (opensNothing : Family.ofOpener? character = none)
    (closesNothing : Family.ofCloser? character = none) :
    Level (character :: rest) ↔ Level rest := by
  simp only [Level, openers_cons_of_ofOpener? opensNothing,
    closers_cons_of_ofCloser? closesNothing]

end Level

namespace Balanced

theorem nil :
    Balanced [] :=
  fun _ => .nil

theorem level
    {text : List Char}
    (balanced : Balanced text) :
    Level text :=
  fun family => (balanced family).level

theorem append
    {left right : List Char}
    (leftBalanced : Balanced left)
    (rightBalanced : Balanced right) :
    Balanced (left ++ right) :=
  fun family => (leftBalanced family).append (rightBalanced family)

/-- A text without brackets is balanced. -/
theorem of_no_bracket
    {text : List Char}
    (noOpener : ∀ character ∈ text, Family.ofOpener? character = none)
    (noCloser : ∀ character ∈ text, Family.ofCloser? character = none) :
    Balanced text := by
  intro family
  apply BalancedIn.of_not_mem
  · intro member
    simpa using noOpener _ member
  · intro member
    simpa using noCloser _ member

/-- A text of characters that are not brackets balances.  On a fixed text this
can be computed. -/
theorem of_all
    {text : List Char}
    (noBracket :
      (text.all fun character =>
        (Family.ofOpener? character).isNone &&
          (Family.ofCloser? character).isNone) = true) :
    Balanced text := by
  simp only [List.all_eq_true, Bool.and_eq_true,
    Option.isNone_iff_eq_none] at noBracket
  exact of_no_bracket
    (fun character member => (noBracket character member).1)
    fun character member => (noBracket character member).2

theorem wrap
    {interior : List Char}
    (balanced : Balanced interior)
    (around : Family) :
    Balanced (around.opener :: interior ++ [around.closer]) :=
  fun family => (balanced family).wrap around

/-- Balanced parts with a balanced separator between them are balanced. -/
theorem intercalate
    {separator : List Char}
    {parts : List (List Char)}
    (separates : Balanced separator)
    (areBalanced : ∀ part ∈ parts, Balanced part) :
    Balanced (separator.intercalate parts) := by
  induction parts with
  | nil =>
      exact nil
  | cons part parts inductionHypothesis =>
      rw [List.forall_mem_cons] at areBalanced
      cases parts with
      | nil =>
          simpa using areBalanced.1
      | cons next parts =>
          rw [List.intercalate_cons_cons]
          exact (areBalanced.1.append separates).append
            (inductionHypothesis areBalanced.2)

/-- Every opener of a balanced text has its closer, and what stands between
the two is balanced in their family. -/
theorem exists_interior
    {front rest : List Char}
    {family : Family}
    (balanced : Balanced (front ++ family.opener :: rest)) :
    ∃ interior back,
      rest = interior ++ family.closer :: back ∧
        BalancedIn family interior :=
  (balanced family).exists_interior

/-- Where nothing is open between two parts of a balanced text, both parts are
balanced. -/
theorem split
    {left right : List Char}
    (balanced : Balanced (left ++ right))
    (level : Level left) :
    Balanced left ∧ Balanced right := by
  refine ⟨fun family => ⟨?_, level family⟩, fun family => ⟨?_, ?_⟩⟩
  · exact (balanced family).covered.of_append
  · intro front isFront
    have within :=
      (balanced family).covered (left ++ front)
        ((List.prefix_append_right_inj left).mpr isFront)
    have before := level family
    simp only [openers_append, closers_append] at within
    omega
  · exact (Level.append_iff level).mp balanced.level family

end Balanced

end ApiIndex.Bracket

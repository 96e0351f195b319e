import ApiIndex.Proofs.Bracket.Imbalance
import Mathlib.Data.List.Sort

namespace ApiIndex.Bracket

open ApiIndex.Text

/-!
# What a scan answers

The answer of a scan follows from counting brackets in the text.  A closer is
surplus where the text up to it closes more of its family than it opens.  The
first surplus closer is reported, whatever is left open behind it; without one,
the first family that the text leaves open; and if there is no such family
either, every bracket and separator is marked with the brackets open around it.
-/

/-- A closer stands at an offset where no bracket of its family is open. -/
def SurplusCloser
    (text : List Char)
    (family : Family)
    (offset : Nat) :
    Prop :=
  ∃ front back,
    text = front ++ family.closer :: back ∧
      openers family front < closers family (front ++ [family.closer]) ∧
      byteSize front = offset

/-- A family is the first one of which a text opens more brackets than it
closes. -/
def FirstOpen
    (text : List Char)
    (family : Family)
    (surplus : Nat) :
    Prop :=
  ∃ before after,
    Family.all = before ++ family :: after ∧
      (∀ other ∈ before, openers other text = closers other text) ∧
      openers family text = closers family text + surplus ∧
      0 < surplus

/-- The characters that a scan marks. -/
def significant : List Char :=
  ['.', ',', '\x60', '<', '>', '\x7b', '\x7d', '[', ']', '(', ')']

/-- A mark says which character stands behind `front`, and how many brackets of
each family are open there: before an opener or a separator, and behind a
closer. -/
structure Mark.Describes
    (mark : Mark)
    (front : List Char)
    (character : Char) : Prop where
  offset : mark.offset = byteSize front
  same : mark.character = character
  marked : character ∈ significant
  leading :
    (∀ closed : Family, character ≠ closed.closer) →
      ∀ family,
        mark.depth.get family + closers family front =
          openers family front
  closing :
    (∃ closed : Family, character = closed.closer) →
      ∀ family,
        mark.depth.get family + closers family (front ++ [character]) =
          openers family (front ++ [character])

/-- A scanned text has, in text order, the marks of its brackets and separators
and no others. -/
structure MarkedExactly
    (text : List Char)
    (scanned : Scan) : Prop where
  same : scanned.text = text
  ordered :
    scanned.marks.Pairwise fun mark later => mark.offset < later.offset
  mem_marks_iff :
    ∀ mark,
      mark ∈ scanned.marks ↔
        ∃ front character back,
          text = front ++ character :: back ∧
            mark.Describes front character

section Surplus

variable {text : List Char} {family : Family} {offset : Nat}

/-- A text is covered exactly if it has no surplus closer. -/
theorem covered_iff_no_surplusCloser :
    Covered family text ↔ ∀ offset, ¬ SurplusCloser text family offset := by
  constructor
  · rintro covered offset ⟨front, back, rfl, surplus, -⟩
    have enough :=
      covered (front ++ [family.closer]) ⟨back, by simp⟩
    rw [openers_append, openers_cons_closer, openers_nil] at enough
    omega
  · intro noSurplus
    by_contra uncovered
    obtain ⟨interior, back, rfl, balanced⟩ :=
      Covered.exists_of_not uncovered
    refine noSurplus _ ⟨interior, back, rfl, ?_, rfl⟩
    simp [balanced.level]

/-- A surplus closer in the front of a text is one of the whole text. -/
theorem SurplusCloser.append
    {front : List Char}
    (surplus : SurplusCloser front family offset)
    (back : List Char) :
    SurplusCloser (front ++ back) family offset ∧
      offset < byteSize front := by
  obtain ⟨before, after, rfl, tooMany, rfl⟩ := surplus
  have positive := family.closer.utf8Size_pos
  refine ⟨⟨before, after ++ back, by simp, tooMany, rfl⟩, ?_⟩
  simp only [byteSize_append, byteSize_cons]
  omega

/-- A scan stops at the first of all surplus closers. -/
theorem imbalance_closer_iff :
    Imbalance text (.unexpectedCloser family offset) ↔
      SurplusCloser text family offset ∧
        ∀ other earlier,
          SurplusCloser text other earlier → offset ≤ earlier := by
  constructor
  · intro imbalance
    cases imbalance with
    | @closer front back _ shape covered level =>
        refine ⟨⟨front, back, shape, by simp [level], rfl⟩, ?_⟩
        rintro other earlier ⟨before, after, otherShape, tooMany, rfl⟩
        -- A surplus closer further in front would leave `front` uncovered.
        by_contra isEarlier
        obtain ⟨between, frontShape, behind⟩ :=
          exists_eq_append_of_byteSize_le (otherShape.symm.trans shape)
            (by omega)
        cases between with
        | nil =>
            simp [frontShape] at isEarlier
        | cons character between =>
            obtain ⟨rfl, -⟩ := List.cons.inj behind
            exact covered_iff_no_surplusCloser.mp (covered other) _
              ⟨before, between, frontShape, tooMany, rfl⟩
    | unclosed _ isOpen =>
        exact absurd isOpen
          (Depth.unclosed?_ne_unexpectedCloser _ _ _)
  · rintro ⟨⟨front, back, rfl, tooMany, rfl⟩, isFirst⟩
    have covered
        (other : Family) :
        Covered other front := by
      rw [covered_iff_no_surplusCloser]
      intro earlier surplus
      obtain ⟨ofWhole, isEarlier⟩ :=
        surplus.append (family.closer :: back)
      have notEarlier := isFirst other earlier ofWhole
      omega
    have enough := (covered family).closers_le
    refine .closer rfl covered ?_
    simp only [closers_append, closers_cons_closer, closers_nil,
      ↓reduceIte] at tooMany
    omega

/-- The first open family is the one that is reported as unclosed. -/
theorem unclosed?_behind_eq_some_iff
    {count : Nat}
    (covered : ∀ other, Covered other text) :
    (Depth.behind text).unclosed? = some (.unclosed family count) ↔
      FirstOpen text family count := by
  have closedIff
      (other : Family) :
      ((Depth.behind text).get other != 0) = false ↔
        openers other text = closers other text := by
    have enough := (covered other).closers_le
    simp only [Depth.get_behind, bne_eq_false_iff_eq]
    omega
  have enough := (covered family).closers_le
  rw [Depth.unclosed?, Option.map_eq_some_iff]
  simp only [List.find?_eq_some_iff_append, Error.unclosed.injEq]
  constructor
  · rintro ⟨_, ⟨isOpen, before, after, listed, closedBefore⟩, rfl, rfl⟩
    simp only [Depth.get_behind, bne_iff_ne, ne_eq] at isOpen
    refine ⟨before, after, listed, ?_, ?_, ?_⟩
    · intro other member
      exact (closedIff other).mp (by simpa using closedBefore other member)
    · rw [Depth.get_behind]
      omega
    · rw [Depth.get_behind]
      omega
  · rintro ⟨before, after, listed, closedBefore, surplus, positive⟩
    have count_eq :
        (Depth.behind text).get family = count := by
      rw [Depth.get_behind]
      omega
    refine ⟨family, ⟨?_, before, after, listed, ?_⟩, rfl, count_eq⟩
    · rw [count_eq, bne_iff_ne]
      omega
    · intro other member
      simpa using (closedIff other).mpr (closedBefore other member)

/-- Without a surplus closer, a scan ends at the first open family. -/
theorem imbalance_unclosed_iff
    {count : Nat} :
    Imbalance text (.unclosed family count) ↔
      (∀ other offset, ¬ SurplusCloser text other offset) ∧
        FirstOpen text family count := by
  simp only [← covered_iff_no_surplusCloser]
  constructor
  · intro imbalance
    cases imbalance with
    | unclosed covered isOpen =>
        exact ⟨covered, (unclosed?_behind_eq_some_iff covered).mp isOpen⟩
  · rintro ⟨covered, isFirst⟩
    exact .unclosed covered
      ((unclosed?_behind_eq_some_iff covered).mpr isFirst)

end Surplus

section Answers

variable {text : List Char}

/-- A text is out of balance in one way only. -/
theorem Imbalance.unique
    {error other : Error}
    (imbalance : Imbalance text error)
    (otherImbalance : Imbalance text other) :
    error = other := by
  have notBoth
      {family : Family}
      {offset : Nat}
      (stopped : Imbalance text (.unexpectedCloser family offset))
      (covered : ∀ other, Covered other text) :
      False :=
    covered_iff_no_surplusCloser.mp (covered family) offset
      (imbalance_closer_iff.mp stopped).1
  cases error with
  | unexpectedCloser family offset =>
      cases other with
      | unexpectedCloser otherFamily otherOffset =>
          obtain ⟨surplus, isFirst⟩ := imbalance_closer_iff.mp imbalance
          obtain ⟨otherSurplus, otherIsFirst⟩ :=
            imbalance_closer_iff.mp otherImbalance
          have sameOffset : offset = otherOffset :=
            Nat.le_antisymm (isFirst _ _ otherSurplus)
              (otherIsFirst _ _ surplus)
          obtain ⟨front, back, shape, -, rfl⟩ := surplus
          obtain ⟨otherFront, otherBack, otherShape, -, size⟩ :=
            otherSurplus
          have stands : StandsAt text (byteSize front) family.closer :=
            ⟨front, back, shape, rfl⟩
          have otherStands :
              StandsAt text (byteSize front) otherFamily.closer :=
            ⟨otherFront, otherBack, otherShape, size.trans sameOffset.symm⟩
          have sameFamily :=
            Family.closer_inj.mp (stands.unique otherStands)
          rw [sameFamily, sameOffset]
      | unclosed otherFamily count =>
          cases otherImbalance with
          | unclosed covered _ =>
              exact (notBoth imbalance covered).elim
  | unclosed family count =>
      cases imbalance with
      | unclosed covered isOpen =>
          cases otherImbalance with
          | closer shape frontCovered level =>
              exact (notBoth (.closer shape frontCovered level)
                covered).elim
          | unclosed _ otherIsOpen =>
              exact Option.some.inj (isOpen.symm.trans otherIsOpen)

/-- A text that is out of balance is not balanced. -/
theorem Imbalance.not_balanced
    {error : Error}
    (imbalance : Imbalance text error) :
    ¬ Balanced text := by
  intro balanced
  have covered :=
    fun family => (balanced family).covered
  cases imbalance with
  | closer shape frontCovered level =>
      have stopped := imbalance_closer_iff.mp
        (.closer shape frontCovered level)
      exact covered_iff_no_surplusCloser.mp (covered _) _ stopped.1
  | unclosed _ isOpen =>
      have top :=
        (Depth.isTop_behind_iff covered).mpr balanced.level
      rw [← Depth.unclosed?_eq_none_iff, isOpen] at top
      contradiction

/-- A scan fails exactly for the imbalance of the text. -/
theorem scan_eq_error_iff
    {error : Error} :
    scan text = .error error ↔ Imbalance text error := by
  constructor
  · exact imbalance_of_scan
  · intro imbalance
    cases scanned : scan text with
    | error other =>
        rw [imbalance.unique (imbalance_of_scan scanned)]
    | ok marks =>
        exact (imbalance.not_balanced (scan_eq_ok_iff.mp scanned).1).elim

/-- The marks of a text follow each other. -/
theorem marksBehind_ordered
    (front text : List Char) :
    (marksBehind front text).Pairwise
      fun mark later => mark.offset < later.offset := by
  induction text generalizing front with
  | nil =>
      exact .nil
  | cons character rest inductionHypothesis =>
      rw [marksBehind, List.pairwise_append]
      refine ⟨?_, inductionHypothesis _, ?_⟩
      · cases markAt? front character <;> simp
      · intro mark isMark later isLater
        have positive := character.utf8Size_pos
        have offset := (eq_of_markAt? (Option.mem_toList.mp isMark)).1
        have behind := (offset_of_mem_marksBehind isLater).1
        simp only [byteSize_append, byteSize_cons, byteSize_nil] at behind
        omega

/-- Marks that follow each other are determined by which marks there are. -/
theorem eq_of_mem_iff_of_ordered
    {marks others : List Mark}
    (ordered :
      marks.Pairwise fun mark later => mark.offset < later.offset)
    (othersOrdered :
      others.Pairwise fun mark later => mark.offset < later.offset)
    (same : ∀ mark, mark ∈ marks ↔ mark ∈ others) :
    marks = others := by
  have irreflexive :
      Std.Irrefl fun mark later : Mark => mark.offset < later.offset :=
    ⟨fun _ => Nat.lt_irrefl _⟩
  have antisymmetric :
      Std.Antisymm fun mark later : Mark => mark.offset < later.offset :=
    ⟨fun _ _ isLess isMore => absurd isMore (Nat.lt_asymm isLess)⟩
  exact ordered.eq_of_mem_iff othersOrdered same

/-- The characters that are marked are the brackets and the separators. -/
theorem isSome_markAt?_iff
    {front : List Char}
    {character : Char} :
    (markAt? front character).isSome ↔ character ∈ significant := by
  rcases Family.opener_or_closer_or_neither character with
      ⟨family, rfl⟩ | ⟨family, rfl⟩ | ⟨opensNothing, closesNothing⟩
  · have listed : family.opener ∈ significant := by
      cases family <;> decide
    simpa using listed
  · have listed : family.closer ∈ significant := by
      cases family <;> decide
    simpa using listed
  · have noOpener := Family.ne_opener_of_ofOpener? opensNothing
    have noCloser := Family.ne_closer_of_ofCloser? closesNothing
    have notBracket :
        character ∈ significant ↔ isSeparator character = true := by
      have := noOpener .angle
      have := noOpener .brace
      have := noOpener .square
      have := noOpener .paren
      have := noCloser .angle
      have := noCloser .brace
      have := noCloser .square
      have := noCloser .paren
      simp_all [significant, isSeparator, Family.opener, Family.closer,
        or_assoc]
    rw [notBracket, markAt?_other opensNothing closesNothing]
    split <;> simp_all

/-- In a balanced text, the mark of a character is the one that describes it. -/
theorem markAt?_eq_some_iff_describes
    {front back : List Char}
    {character : Char}
    {mark : Mark}
    (balanced : Balanced (front ++ character :: back)) :
    markAt? front character = some mark ↔
      mark.Describes front character := by
  have enough
      (family : Family) :
      closers family front ≤ openers family front :=
    (balanced family).covered.of_append.closers_le
  have enoughBehind
      (family : Family) :
      closers family (front ++ [character]) ≤
        openers family (front ++ [character]) :=
    (balanced family).covered _ ⟨back, by simp⟩
  constructor
  · intro isMark
    obtain ⟨sameOffset, sameCharacter⟩ := eq_of_markAt? isMark
    refine ⟨sameOffset, sameCharacter, ?_, ?_, ?_⟩
    · rw [← @isSome_markAt?_iff front, isMark]
      rfl
    · intro notCloser family
      have closesNothing : Family.ofCloser? character = none := by
        cases closes : Family.ofCloser? character with
        | none =>
            rfl
        | some closed =>
            exact absurd (Family.eq_closer_of_ofCloser? closes)
              (notCloser closed)
      simp only [markAt?, closesNothing, Option.isSome_none,
        Bool.false_eq_true, ↓reduceIte, Option.ite_none_right_eq_some,
        Option.some.injEq] at isMark
      obtain ⟨-, rfl⟩ := isMark
      simpa using Nat.sub_add_cancel (enough family)
    · rintro ⟨closed, rfl⟩ family
      rw [markAt?_closer] at isMark
      cases isMark
      simpa only [Depth.get_behind] using
        Nat.sub_add_cancel (enoughBehind family)
  · intro describes
    obtain ⟨own, isOwn⟩ :=
      Option.isSome_iff_exists.mp
        ((@isSome_markAt?_iff front _).mpr describes.marked)
    rw [isOwn, Option.some_inj]
    obtain ⟨offset, seen, depth⟩ := mark
    obtain ⟨ownOffset, ownSeen, ownDepth⟩ := own
    obtain ⟨rfl, rfl⟩ := eq_of_markAt? isOwn
    obtain ⟨rfl, rfl, -, leading, closing⟩ := describes
    congr 1
    apply Depth.eq_of_get
    intro family
    rcases Family.opener_or_closer_or_neither seen with
        ⟨opened, rfl⟩ | ⟨closed, rfl⟩ | ⟨opensNothing, closesNothing⟩
    · have counted := leading (by simp) family
      simp only [markAt?_opener, Option.some_inj, Mark.mk.injEq] at isOwn
      rw [← isOwn.2.2, Depth.get_behind]
      simp only at counted
      omega
    · have counted := closing ⟨closed, rfl⟩ family
      simp only [markAt?_closer, Option.some_inj, Mark.mk.injEq] at isOwn
      rw [← isOwn.2.2, Depth.get_behind]
      simp only at counted
      omega
    · have counted :=
        leading (Family.ne_closer_of_ofCloser? closesNothing) family
      simp only [markAt?_other opensNothing closesNothing,
        Option.ite_none_right_eq_some, Option.some_inj,
        Mark.mk.injEq] at isOwn
      rw [← isOwn.2.2.2, Depth.get_behind]
      simp only at counted
      omega

/-- The description of the marks of a balanced text determines them. -/
theorem markedExactly_iff
    {scanned : Scan}
    (balanced : Balanced text) :
    MarkedExactly text scanned ↔ scanned = marked text := by
  have member_iff
      (mark : Mark) :
      mark ∈ marksBehind [] text ↔
        ∃ front character back,
          text = front ++ character :: back ∧
            mark.Describes front character := by
    rw [mem_marksBehind_iff]
    constructor
    · rintro ⟨front, character, back, rfl, isMark⟩
      exact ⟨front, character, back, rfl,
        (markAt?_eq_some_iff_describes balanced).mp isMark⟩
    · rintro ⟨front, character, back, rfl, describes⟩
      exact ⟨front, character, back, rfl,
        (markAt?_eq_some_iff_describes balanced).mpr describes⟩
  constructor
  · intro exactly
    obtain ⟨scannedText, marks⟩ := scanned
    obtain ⟨sameText, ordered, members⟩ := exactly
    simp only at sameText ordered members
    subst sameText
    have same :=
      eq_of_mem_iff_of_ordered ordered (marksBehind_ordered [] _)
        fun mark => (members mark).trans (member_iff mark).symm
    rw [marked, same]
  · rintro rfl
    exact ⟨rfl, marksBehind_ordered [] text, member_iff⟩

/-- The answer of a scan follows from counting brackets.  It succeeds exactly
on the balanced texts, with the marks that describe the text.  Otherwise the
first surplus closer is reported if there is one, and if not, the first open
family with the number of its brackets that are left open. -/
theorem scan_answers_by_counting
    (text : List Char) :
    (∀ scanned,
      scan text = .ok scanned ↔
        Balanced text ∧ MarkedExactly text scanned) ∧
      (∀ family offset,
        scan text = .error (.unexpectedCloser family offset) ↔
          SurplusCloser text family offset ∧
            ∀ other earlier,
              SurplusCloser text other earlier → offset ≤ earlier) ∧
      (∀ family count,
        scan text = .error (.unclosed family count) ↔
          (∀ other offset, ¬ SurplusCloser text other offset) ∧
            FirstOpen text family count) ∧
      ((∃ scanned, scan text = .ok scanned) ↔ Balanced text) ∧
      ((∃ family offset,
          scan text = .error (.unexpectedCloser family offset)) ↔
        ∃ family offset, SurplusCloser text family offset) ∧
      ((∃ family count, scan text = .error (.unclosed family count)) ↔
        (∀ family offset, ¬ SurplusCloser text family offset) ∧
          ∃ family, closers family text < openers family text) := by
  have stopped
      (family : Family)
      (offset : Nat) :
      scan text = .error (.unexpectedCloser family offset) ↔
        SurplusCloser text family offset ∧
          ∀ other earlier,
            SurplusCloser text other earlier → offset ≤ earlier := by
    rw [scan_eq_error_iff, imbalance_closer_iff]
  have leftOpen
      (family : Family)
      (count : Nat) :
      scan text = .error (.unclosed family count) ↔
        (∀ other offset, ¬ SurplusCloser text other offset) ∧
          FirstOpen text family count := by
    rw [scan_eq_error_iff, imbalance_unclosed_iff]
  have noneOfBalanced
      (balanced : Balanced text)
      (family : Family)
      (offset : Nat) :
      ¬ SurplusCloser text family offset :=
    covered_iff_no_surplusCloser.mp (balanced family).covered offset
  refine ⟨?_, stopped, leftOpen, ?_, ?_, ?_⟩
  · intro scanned
    rw [scan_eq_ok_iff]
    exact and_congr_right fun balanced =>
      (markedExactly_iff balanced).symm
  · exact ⟨fun ⟨_, scanned⟩ => (scan_eq_ok_iff.mp scanned).1,
      fun balanced => ⟨_, scan_eq_ok_iff.mpr ⟨balanced, rfl⟩⟩⟩
  · constructor
    · rintro ⟨family, offset, failed⟩
      exact ⟨family, offset, ((stopped family offset).mp failed).1⟩
    · rintro ⟨family, offset, surplus⟩
      cases answer : scan text with
      | ok scanned =>
          exact (noneOfBalanced (scan_eq_ok_iff.mp answer).1 _ _
            surplus).elim
      | error error =>
          cases error with
          | unexpectedCloser first least =>
              exact ⟨first, least, rfl⟩
          | unclosed first count =>
              exact (((leftOpen _ _).mp answer).1 _ _ surplus).elim
  · constructor
    · rintro ⟨family, count, failed⟩
      obtain ⟨noSurplus, _, _, _, _, exceeds, positive⟩ :=
        (leftOpen family count).mp failed
      exact ⟨noSurplus, family, by omega⟩
    · rintro ⟨noSurplus, family, exceeds⟩
      cases answer : scan text with
      | ok scanned =>
          have level := (scan_eq_ok_iff.mp answer).1.level family
          omega
      | error error =>
          cases error with
          | unexpectedCloser first least =>
              exact (noSurplus _ _ ((stopped _ _).mp answer).1).elim
          | unclosed first count =>
              exact ⟨first, count, rfl⟩

/-- A surplus closer is reported even behind an opener that is left open. -/
example :
    scan "f(x>".toList = .error (.unexpectedCloser .angle 3) := by
  decide +kernel

end Answers

end ApiIndex.Bracket

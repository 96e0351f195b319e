import ApiIndex.Proofs.Bracket.Group
import ApiIndex.Proofs.Bracket.Queries

namespace ApiIndex.Bracket

open ApiIndex.Text

/-!
# Brackets in pairs

Two brackets of a family are a pair if what stands between them is balanced in
the family.  In a balanced text every bracket belongs to exactly one pair, and
of two pairs of one family either one lies inside the other or they lie behind
each other.  A scan finds the closer of an opener by its depth; the closer it
finds is the other bracket of the pair, the first one up to which the text
closes what it has opened from the opener on.
-/

/-- From the character at one offset to the character at another, both of them
included, a text opens and closes a family equally often. -/
def EvenBetween
    (text : List Char)
    (family : Family)
    (first last : Nat) :
    Prop :=
  openers family (slice text ⟨first, last + 1⟩) =
    closers family (slice text ⟨first, last + 1⟩)

/-- Two brackets of a family around a text that is balanced in the family. -/
def Paired
    (text : List Char)
    (family : Family)
    (opening closing : Nat) :
    Prop :=
  ∃ front interior back,
    text = front ++ family.opener :: interior ++ family.closer :: back ∧
      BalancedIn family interior ∧
      byteSize front = opening ∧
      byteSize (front ++ family.opener :: interior) = closing

/-- The closers that are given for the openers of a text match its brackets
one to one, and those of a family never cross. -/
structure PerfectMatching
    (text : List Char)
    (closerOf? : Nat → Option Nat) : Prop where
  isSome_iff :
    ∀ opening,
      (∃ closing, closerOf? opening = some closing) ↔
        ∃ family : Family, StandsAt text opening family.opener
  first_even :
    ∀ (family : Family) (opening closing : Nat),
      StandsAt text opening family.opener →
        (closerOf? opening = some closing ↔
          opening < closing ∧
            StandsAt text closing family.closer ∧
            EvenBetween text family opening closing ∧
            ∀ earlier,
              opening ≤ earlier → earlier < closing →
                ¬ EvenBetween text family opening earlier)
  injective :
    ∀ opening other closing,
      closerOf? opening = some closing →
        closerOf? other = some closing → opening = other
  surjective :
    ∀ (family : Family) (closing : Nat),
      StandsAt text closing family.closer →
        ∃ opening,
          StandsAt text opening family.opener ∧
            closerOf? opening = some closing
  nested_or_disjoint :
    ∀ (family : Family) (opening closing other otherClosing : Nat),
      StandsAt text opening family.opener →
        StandsAt text other family.opener →
          closerOf? opening = some closing →
            closerOf? other = some otherClosing →
              opening < other →
                closing < other ∨ otherClosing < closing

/-- Where a bracket of a family is open, the last one that has no closer yet is
followed by a text that is balanced in the family. -/
theorem Covered.exists_last_open
    {family : Family}
    {text : List Char}
    (covered : Covered family text)
    (someOpen : closers family text < openers family text) :
    ∃ front interior,
      text = front ++ family.opener :: interior ∧
        BalancedIn family interior := by
  induction size : text.length using Nat.strongRecOn
    generalizing text with
  | ind length inductionHypothesis =>
      rcases List.eq_nil_or_concat' text with rfl | ⟨start, last, rfl⟩
      · simp at someOpen
      · have shorter : start.length < length := by
          rw [← size]
          simp
        by_cases opens : last = family.opener
        · exact ⟨start, [], by simp [opens], .nil⟩
        · simp only [openers_append, closers_append, openers_cons,
            closers_cons, openers_nil, closers_nil, opens,
            ↓reduceIte] at someOpen
          have before :
              closers family start < openers family start := by
            omega
          obtain ⟨front, interior, rfl, balanced⟩ :=
            inductionHypothesis _ shorter covered.of_append before rfl
          by_cases closes : last = family.closer
          · -- The last open bracket gets its closer here, so the one
            -- around it is the last open bracket now.
            subst last
            have level := balanced.level
            simp only [openers_append, closers_append,
              openers_cons_opener, closers_cons_opener,
              ↓reduceIte] at someOpen
            have around :
                closers family front < openers family front := by
              omega
            have isFront : front.length < length := by
              simp only [List.length_append,
                List.length_cons] at shorter
              omega
            obtain ⟨outer, inside, rfl, insideBalanced⟩ :=
              inductionHypothesis _ isFront
                covered.of_append.of_append around rfl
            exact ⟨outer,
              inside ++ (family.opener :: interior ++ [family.closer]),
              by simp, insideBalanced.append (balanced.wrap family)⟩
          · have alone : BalancedIn family [last] :=
              .of_not_mem (by simpa [eq_comm] using opens)
                (by simpa [eq_comm] using closes)
            exact ⟨front, interior ++ [last], by simp,
              balanced.append alone⟩

namespace Paired

variable
  {text : List Char} {family : Family}
  {opening closing other otherClosing : Nat}

/-- A pair has a bracket at each of its ends, the opener in front. -/
theorem stands
    (paired : Paired text family opening closing) :
    StandsAt text opening family.opener ∧
      StandsAt text closing family.closer ∧
      opening < closing := by
  obtain ⟨front, interior, back, rfl, -, rfl, rfl⟩ := paired
  refine ⟨⟨front, interior ++ family.closer :: back, by simp, rfl⟩,
    ⟨front ++ family.opener :: interior, back, rfl, rfl⟩, ?_⟩
  simp only [byteSize_append, byteSize_cons, Family.utf8Size_opener]
  omega

/-- Every opener of a balanced text belongs to a pair. -/
theorem exists_of_opener
    (balanced : BalancedIn family text)
    (stands : StandsAt text opening family.opener) :
    ∃ closing, Paired text family opening closing := by
  obtain ⟨front, rest, rfl, size⟩ := stands
  obtain ⟨interior, back, rfl, interiorBalanced⟩ :=
    balanced.exists_interior
  exact ⟨_, front, interior, back, by simp, interiorBalanced, size, rfl⟩

/-- Every closer of a balanced text belongs to a pair. -/
theorem exists_of_closer
    (balanced : BalancedIn family text)
    (stands : StandsAt text closing family.closer) :
    ∃ opening, Paired text family opening closing := by
  obtain ⟨before, back, rfl, size⟩ := stands
  have covered := balanced.covered.of_append
  have enough :=
    balanced.covered (before ++ [family.closer]) ⟨back, by simp⟩
  simp only [openers_append, closers_append, openers_cons_closer,
    closers_cons_closer, openers_nil, closers_nil,
    ↓reduceIte] at enough
  obtain ⟨front, interior, rfl, interiorBalanced⟩ :=
    covered.exists_last_open (by omega)
  exact ⟨_, front, interior, back, rfl, interiorBalanced, rfl, size⟩

/-- An opener belongs to one pair only. -/
theorem closing_unique
    (paired : Paired text family opening closing)
    (otherPaired : Paired text family opening otherClosing) :
    closing = otherClosing := by
  obtain ⟨front, interior, back, rfl, balanced, size, rfl⟩ := paired
  obtain ⟨otherFront, otherInterior, otherBack, shape, otherBalanced,
    otherSize, rfl⟩ := otherPaired
  simp only [List.append_assoc, List.cons_append] at shape
  obtain ⟨between, rfl, rest⟩ :=
    exists_eq_append_of_byteSize_le shape
      (Nat.le_of_eq (size.trans otherSize.symm))
  obtain rfl : between = [] := by
    rw [byteSize_append, size] at otherSize
    exact byteSize_eq_zero.mp (by omega)
  obtain ⟨rfl, -⟩ :=
    balanced.interior_unique otherBalanced (List.cons.inj rest).2
  simp

/-- An opener inside a pair of its family is closed inside of it. -/
theorem inside
    (paired : Paired text family opening closing)
    (stands : StandsAt text other family.opener)
    (behind : opening < other)
    (before : other < closing) :
    ∃ otherClosing,
      Paired text family other otherClosing ∧ otherClosing < closing := by
  obtain ⟨front, interior, back, rfl, balanced, rfl, rfl⟩ := paired
  obtain ⟨otherFront, rest, shape, rfl⟩ := stands
  -- The opener stands behind the first bracket of the pair.
  have opened :
      (front ++ [family.opener]) ++
          (interior ++ family.closer :: back) =
        otherFront ++ family.opener :: rest := by
    simpa using shape
  obtain ⟨between, rfl, insideShape⟩ :=
    exists_eq_append_of_byteSize_le opened
      (by
        simp only [byteSize_append, byteSize_cons, byteSize_nil,
          Family.utf8Size_opener]
        omega)
  -- It stands before the second one, so it stands in the interior.
  obtain ⟨more, rfl, restShape⟩ :
      ∃ more,
        interior = between ++ more ∧
          family.opener :: rest = more ++ family.closer :: back :=
    exists_eq_append_of_byteSize_le insideShape.symm (by
      simp only [byteSize_append, byteSize_cons, byteSize_nil,
        Family.utf8Size_opener] at before
      omega)
  cases more with
  | nil =>
      simp at restShape
  | cons first more =>
      obtain ⟨rfl, -⟩ := List.cons.inj restShape
      obtain ⟨inner, after, rfl, innerBalanced⟩ :=
        balanced.exists_interior
      refine ⟨_,
        ⟨front ++ [family.opener] ++ between, inner,
          after ++ family.closer :: back, by simp, innerBalanced, rfl,
          rfl⟩, ?_⟩
      simp only [byteSize_append, byteSize_cons, byteSize_nil,
        Family.utf8Size_opener, Family.utf8Size_closer]
      omega

/-- Of two pairs of a family, the one that opens later lies behind the other or
inside of it. -/
theorem nested_or_disjoint
    (paired : Paired text family opening closing)
    (otherPaired : Paired text family other otherClosing)
    (behind : opening < other) :
    closing < other ∨ otherClosing < closing := by
  rcases Nat.lt_trichotomy closing other with isBehind | same | before
  · exact .inl isBehind
  · -- No offset has both a closer and an opener.
    have closes := paired.stands.2.1
    rw [same] at closes
    exact absurd (closes.unique otherPaired.stands.1) (by simp)
  · obtain ⟨inner, innerPaired, isInside⟩ :=
      paired.inside otherPaired.stands.1 behind before
    exact .inr (innerPaired.closing_unique otherPaired ▸ isInside)

/-- A closer belongs to one pair only. -/
theorem opening_unique
    (paired : Paired text family opening closing)
    (otherPaired : Paired text family other closing) :
    opening = other := by
  have orders := paired.stands.2.2
  have otherOrders := otherPaired.stands.2.2
  rcases Nat.lt_trichotomy opening other with isLess | same | isMore
  · have apart := paired.nested_or_disjoint otherPaired isLess
    omega
  · exact same
  · have apart := otherPaired.nested_or_disjoint paired isMore
    omega

/-- A text closes a bracket that it has opened up to the closer of the pair, and
no further in front. -/
theorem first_even
    (paired : Paired text family opening closing) :
    EvenBetween text family opening closing ∧
      ∀ earlier,
        opening ≤ earlier → earlier < closing →
          ¬ EvenBetween text family opening earlier := by
  obtain ⟨front, interior, back, rfl, balanced, rfl, rfl⟩ := paired
  have regrouped :
      front ++ family.opener :: interior ++ family.closer :: back =
        front ++ (family.opener :: interior ++ [family.closer]) ++
          back := by
    simp
  constructor
  · have size :
        byteSize (front ++ family.opener :: interior) + 1 =
          byteSize (front ++
            (family.opener :: interior ++ [family.closer])) := by
      simp only [byteSize_append, byteSize_cons, byteSize_nil,
        Family.utf8Size_opener, Family.utf8Size_closer]
      omega
    rw [EvenBetween, size, regrouped, slice_append]
    exact (balanced.wrap family).level
  · intro earlier isBehind isBefore even
    obtain ⟨less, count⟩ :
        ∃ less, earlier + 1 - byteSize front = less + 1 :=
      ⟨earlier - byteSize front, by omega⟩
    have within : less ≤ byteSize interior := by
      simp only [byteSize_append, byteSize_cons,
        Family.utf8Size_opener] at isBefore
      omega
    have enough :=
      balanced.covered _
        (takeBytes_within_front within (family.closer :: back))
    simp only [EvenBetween, slice, count, List.append_assoc,
      dropBytes_byteSize_append, List.cons_append, takeBytes,
      Family.utf8Size_opener, Nat.add_sub_cancel,
      openers_cons_opener, closers_cons_opener, ↓reduceIte] at even
    omega

end Paired

section Answers

variable {text : List Char}

/-- A scan answers for openers only. -/
theorem exists_opener_of_closerOf?
    {opening closing : Nat}
    (found : (marked text).closerOf? opening = some closing) :
    ∃ family : Family, StandsAt text opening family.opener := by
  rw [Scan.closerOf?] at found
  split at found
  · contradiction
  · next mark later cut =>
      have isMark : mark ∈ marksBehind [] text :=
        (List.dropWhile_sublist _).subset
          (cut ▸ List.mem_cons_self : mark ∈
            (marked text).marks.dropWhile (·.offset < opening))
      split at found
      · next sameOffset =>
          cases opens : Family.ofOpener? mark.character with
          | none =>
              simp [opens] at found
          | some family =>
              obtain ⟨front, character, back, rfl, isHere⟩ :=
                mem_marksBehind_iff.mp isMark
              obtain ⟨offset, rfl⟩ := eq_of_markAt? isHere
              refine ⟨family, front, back, ?_, ?_⟩
              · rw [← Family.eq_opener_of_ofOpener? opens]
              · rw [← sameOffset, offset, List.nil_append]
      · contradiction

/-- The closer that a scan finds is the other bracket of the pair. -/
theorem closerOf?_eq_some_iff
    {family : Family}
    {opening closing : Nat}
    (balanced : Balanced text)
    (stands : StandsAt text opening family.opener) :
    (marked text).closerOf? opening = some closing ↔
      Paired text family opening closing := by
  have answers
      {closing : Nat}
      (paired : Paired text family opening closing) :
      (marked text).closerOf? opening = some closing := by
    obtain ⟨front, interior, back, rfl, interiorBalanced, rfl, rfl⟩ :=
      paired
    have covered := (balanced family).covered
    rw [List.append_assoc] at covered
    exact closerOf?_eq_some covered.of_append interiorBalanced
  constructor
  · intro found
    obtain ⟨paired, isPair⟩ :=
      Paired.exists_of_opener (balanced family) stands
    obtain rfl : closing = paired :=
      Option.some.inj (found.symm.trans (answers isPair))
    exact isPair
  · exact answers

/-- The closer that a scan finds belongs to an opener of its family. -/
theorem exists_paired_of_closerOf?
    {opening closing : Nat}
    (balanced : Balanced text)
    (found : (marked text).closerOf? opening = some closing) :
    ∃ family, Paired text family opening closing := by
  obtain ⟨family, stands⟩ := exists_opener_of_closerOf? found
  exact ⟨family, (closerOf?_eq_some_iff balanced stands).mp found⟩

/-- The closers that a scan finds in a balanced text match its brackets one to
one. -/
theorem perfectMatching_marked
    (balanced : Balanced text) :
    PerfectMatching text (marked text).closerOf? where
  isSome_iff := by
    intro opening
    constructor
    · rintro ⟨closing, found⟩
      exact exists_opener_of_closerOf? found
    · rintro ⟨family, stands⟩
      obtain ⟨closing, paired⟩ :=
        Paired.exists_of_opener (balanced family) stands
      exact ⟨closing, (closerOf?_eq_some_iff balanced stands).mpr paired⟩
  first_even := by
    intro family opening closing stands
    rw [closerOf?_eq_some_iff balanced stands]
    constructor
    · intro paired
      exact ⟨paired.stands.2.2, paired.stands.2.1, paired.first_even⟩
    · rintro ⟨isBehind, -, even, isFirst⟩
      obtain ⟨least, paired⟩ :=
        Paired.exists_of_opener (balanced family) stands
      have orders := paired.stands.2.2
      rcases Nat.lt_trichotomy closing least with isLess | same | isMore
      · exact (paired.first_even.2 closing (Nat.le_of_lt isBehind) isLess
          even).elim
      · exact same ▸ paired
      · exact (isFirst least (Nat.le_of_lt orders) isMore
          paired.first_even.1).elim
  injective := by
    intro opening other closing found otherFound
    obtain ⟨family, paired⟩ := exists_paired_of_closerOf? balanced found
    obtain ⟨otherFamily, otherPaired⟩ :=
      exists_paired_of_closerOf? balanced otherFound
    obtain rfl : family = otherFamily :=
      Family.closer_inj.mp
        (paired.stands.2.1.unique otherPaired.stands.2.1)
    exact paired.opening_unique otherPaired
  surjective := by
    intro family closing stands
    obtain ⟨opening, paired⟩ :=
      Paired.exists_of_closer (balanced family) stands
    exact ⟨opening, paired.stands.1,
      (closerOf?_eq_some_iff balanced paired.stands.1).mpr paired⟩
  nested_or_disjoint := by
    intro family opening closing other otherClosing stands otherStands
      found otherFound
    exact ((closerOf?_eq_some_iff balanced stands).mp
      found).nested_or_disjoint
        ((closerOf?_eq_some_iff balanced otherStands).mp otherFound)

/-- The closers that a successful scan finds match the brackets of the text one
to one.  Each is the first offset up to which the text closes what it has opened
from the opener on.  Pairs of one family never cross, pairs of different
families may. -/
theorem closers_match_openers :
    (∀ text scanned,
      scan text = .ok scanned →
        PerfectMatching text scanned.closerOf?) ∧
      ∃ text scanned opening closing other otherClosing,
        scan text = .ok scanned ∧
          scanned.closerOf? opening = some closing ∧
          scanned.closerOf? other = some otherClosing ∧
          opening < other ∧ other < closing ∧
          closing < otherClosing := by
  constructor
  · intro text scanned succeeds
    obtain ⟨balanced, rfl⟩ := scan_eq_ok_iff.mp succeeds
    exact perfectMatching_marked balanced
  · exact ⟨"<\x7b>\x7d".toList, marked "<\x7b>\x7d".toList, 0, 2, 1, 3,
      by decide +kernel, by decide +kernel, by decide +kernel,
      by decide, by decide, by decide⟩

/-- The brackets of a text in which two families cross. -/
theorem crossing_brackets_matched :
    scan "f<a{b>c}".toList = .ok (marked "f<a{b>c}".toList) ∧
      PerfectMatching "f<a{b>c}".toList
        (marked "f<a{b>c}".toList).closerOf? :=
  ⟨by decide +kernel,
    closers_match_openers.1 _ _ (by decide +kernel)⟩

end Answers

end ApiIndex.Bracket

import ApiIndex.Proofs.Bracket.Balance

namespace ApiIndex.Bracket

/-!
# Groups at top level

A group is an opener, its closer and what stands between the two.  The groups
of a text that no other group encloses are those whose opener stands at top
level.  Each of them ends where the brackets of its own family balance, so its
interior is determined by where it starts, whatever the other families do.
-/

/-- A group of a text whose opener stands at top level. -/
def TopGroup
    (text : List Char)
    (family : Family)
    (interior : List Char) :
    Prop :=
  ∃ front back,
    text = front ++ family.opener :: interior ++ family.closer :: back ∧
      Level front ∧ BalancedIn family interior

namespace BalancedIn

variable {family : Family}

/-- The first closer without an opener of its own ends an interior, so two
interiors that start at the same place are the same. -/
theorem interior_unique
    {interior other back otherBack : List Char}
    (balanced : BalancedIn family interior)
    (otherBalanced : BalancedIn family other)
    (same :
      interior ++ family.closer :: back =
        other ++ family.closer :: otherBack) :
    interior = other ∧ back = otherBack := by
  have noShorter
      {short long shortBack longBack : List Char}
      (shortBalanced : BalancedIn family short)
      (longBalanced : BalancedIn family long)
      (sameHere :
        short ++ family.closer :: shortBack =
          long ++ family.closer :: longBack) :
      long.length ≤ short.length := by
    apply Decidable.byContradiction
    intro isShorter
    have isFront : short ++ [family.closer] <+: long := by
      apply List.prefix_of_prefix_length_le
        ⟨shortBack, by simpa using sameHere⟩
        (List.prefix_append long (family.closer :: longBack))
      simp only [List.length_append, List.length_singleton]
      omega
    have enough := longBalanced.covered _ isFront
    have level := shortBalanced.level
    simp only [openers_append, closers_append, openers_cons_closer,
      closers_cons_closer, openers_nil, closers_nil,
      ↓reduceIte] at enough
    omega
  have lengths : interior.length = other.length :=
    Nat.le_antisymm (noShorter otherBalanced balanced same.symm)
      (noShorter balanced otherBalanced same)
  obtain ⟨sameInterior, sameRest⟩ := List.append_inj same lengths
  exact ⟨sameInterior, (List.cons.inj sameRest).2⟩

end BalancedIn

namespace TopGroup

variable {family : Family} {interior : List Char}

/-- A text without openers has no groups. -/
theorem opener_mem
    {text : List Char}
    (group : TopGroup text family interior) :
    family.opener ∈ text := by
  obtain ⟨front, back, rfl, -⟩ := group
  simp

/-- Behind other text, a group stays a group if all that stands before it is
closed. -/
theorem append_left
    {left right : List Char}
    (level : Level left)
    (group : TopGroup right family interior) :
    TopGroup (left ++ right) family interior := by
  obtain ⟨front, back, rfl, frontLevel, balanced⟩ := group
  exact ⟨left ++ front, back, by simp,
    (Level.append_iff level).mpr frontLevel, balanced⟩

/-- Before other text, a group stays a group. -/
theorem append_right
    {left : List Char}
    (group : TopGroup left family interior)
    (right : List Char) :
    TopGroup (left ++ right) family interior := by
  obtain ⟨front, back, rfl, frontLevel, balanced⟩ := group
  exact ⟨front, back ++ right, by simp, frontLevel, balanced⟩

/-- Behind a balanced text, the groups at top level are those of both parts. -/
theorem append_iff
    {left right : List Char}
    (leftBalanced : Balanced left) :
    TopGroup (left ++ right) family interior ↔
      TopGroup left family interior ∨
        TopGroup right family interior := by
  constructor
  · rintro ⟨front, back, shape, frontLevel, balanced⟩
    rw [List.append_assoc, List.cons_append] at shape
    rcases List.append_eq_append_iff.mp shape with
        ⟨between, rfl, rightShape⟩ | ⟨between, leftShape, restShape⟩
    · refine .inr ⟨between, back, by simpa using rightShape, ?_, balanced⟩
      exact (Level.append_iff leftBalanced.level).mp frontLevel
    · cases between with
      | nil =>
          exact .inr ⟨[], back, by simpa using restShape.symm, .nil,
            balanced⟩
      | cons first between =>
          -- The opener stands in the left part, and so does its closer.
          rw [List.cons_append, List.cons.injEq] at restShape
          obtain ⟨rfl, insideShape⟩ := restShape
          rw [leftShape] at leftBalanced ⊢
          obtain ⟨other, more, rfl, otherBalanced⟩ :=
            leftBalanced.exists_interior
          rw [List.append_assoc, List.cons_append] at insideShape
          obtain ⟨rfl, -⟩ :=
            balanced.interior_unique otherBalanced insideShape
          exact .inl ⟨front, more, by simp, frontLevel, balanced⟩
  · rintro (inLeft | inRight)
    · exact inLeft.append_right right
    · exact inRight.append_left leftBalanced.level

/-- A group by itself has no other group at top level. -/
theorem wrap_iff
    {around : Family}
    {inside : List Char}
    (balanced : BalancedIn around inside) :
    TopGroup (around.opener :: inside ++ [around.closer]) family
        interior ↔
      around = family ∧ inside = interior := by
  constructor
  · rintro ⟨front, back, shape, frontLevel, groupBalanced⟩
    cases front with
    | nil =>
        obtain ⟨sameOpener, rest⟩ := List.cons.inj shape
        have same := Family.opener_inj.mp sameOpener
        subst same
        exact ⟨rfl, (balanced.interior_unique groupBalanced rest).1⟩
    | cons first front =>
        -- In front of any later opener the first one is still open.
        simp only [List.cons_append, List.append_assoc,
          List.cons.injEq] at shape
        obtain ⟨rfl, insideShape⟩ := shape
        have short : front.length ≤ inside.length := by
          have lengths := congrArg List.length insideShape
          simp only [List.length_append, List.length_cons,
            List.length_nil] at lengths
          omega
        have isFront : front <+: inside :=
          List.prefix_of_prefix_length_le ⟨_, insideShape.symm⟩
            (List.prefix_append inside [around.closer]) short
        have enough := balanced.covered front isFront
        have level := frontLevel around
        simp only [openers_cons_opener, closers_cons_opener,
          ↓reduceIte] at level
        omega
  · rintro ⟨rfl, rfl⟩
    exact ⟨[], [], by simp, .nil, balanced⟩

/-- What stands in a group at top level never closes more than it opens, in
any family. -/
theorem covered
    {text : List Char}
    (balanced : Balanced text)
    (group : TopGroup text family interior)
    (other : Family) :
    Covered other interior := by
  obtain ⟨front, back, rfl, frontLevel, interiorBalanced⟩ := group
  by_cases same : family = other
  · exact same ▸ interiorBalanced.covered
  · intro part isPart
    obtain ⟨more, rfl⟩ := isPart
    have enough :=
      (balanced other).covered (front ++ family.opener :: part)
        ⟨more ++ family.closer :: back, by simp⟩
    have level := frontLevel other
    simp only [openers_append, closers_append, openers_cons_opener,
      closers_cons_opener, same, ↓reduceIte] at enough
    omega

end TopGroup

/-- What stands in the last group of a balanced text is balanced in every
family. -/
theorem Balanced.of_last_group
    {front interior : List Char}
    {family : Family}
    (balanced :
      Balanced (front ++ family.opener :: interior ++ [family.closer]))
    (level : Level front)
    (interiorBalanced : BalancedIn family interior) :
    Balanced interior := by
  have group :
      TopGroup (front ++ family.opener :: interior ++ [family.closer])
        family interior :=
    ⟨front, [], rfl, level, interiorBalanced⟩
  intro other
  refine ⟨group.covered balanced other, ?_⟩
  have before := level other
  have whole := balanced.level other
  simp only [openers_append, closers_append, openers_cons_opener,
    closers_cons_opener, openers_cons_closer, closers_cons_closer,
    openers_nil, closers_nil] at whole
  omega

end ApiIndex.Bracket

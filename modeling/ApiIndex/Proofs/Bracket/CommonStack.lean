import ApiIndex.Proofs.Bracket.Group
import ApiIndex.Proofs.Bracket.Marks

namespace ApiIndex.Bracket

/-!
# One stack for all families

Families that are counted by themselves may cross.  The stricter reading keeps
one stack for all of them: every closer has to belong to the bracket that was
opened last and is still open.  A text that nests properly is balanced, and a
balanced text nests properly exactly if the interiors of its groups at top
level do.
-/

/-- Read a text with the brackets that are open, the last one first.  The result
is what is open at the end, or nothing if a closer does not belong to the
bracket opened last. -/
def unwind :
    List Family →
      List Char →
      Option (List Family)
  | stack, [] =>
      some stack
  | stack, character :: rest =>
      match Family.ofOpener? character with
      | some family =>
          unwind (family :: stack) rest
      | none =>
          match Family.ofCloser? character with
          | none =>
              unwind stack rest
          | some family =>
              match stack with
              | [] =>
                  none
              | top :: below =>
                  if top = family then
                    unwind below rest
                  else
                    none

/-- Every closer closes the bracket that was opened last and is still open, and
in the end nothing is open. -/
def ProperlyNested
    (text : List Char) :
    Prop :=
  unwind [] text = some []

instance
    (text : List Char) :
    Decidable (ProperlyNested text) :=
  inferInstanceAs (Decidable (unwind [] text = some []))

section Reading

variable
  {stack final : List Family}
  {family : Family}
  {rest text : List Char}

@[simp] theorem unwind_nil :
    unwind stack [] = some stack :=
  rfl

@[simp] theorem unwind_cons_opener :
    unwind stack (family.opener :: rest) =
      unwind (family :: stack) rest := by
  simp [unwind]

@[simp] theorem unwind_nil_cons_closer :
    unwind [] (family.closer :: rest) = none := by
  simp [unwind]

@[simp] theorem unwind_cons_cons_closer
    {top : Family} :
    unwind (top :: stack) (family.closer :: rest) =
      if top = family then unwind stack rest else none := by
  simp [unwind]

/-- A character that is no bracket is passed over. -/
theorem unwind_cons_of_neither
    {character : Char}
    (opensNothing : Family.ofOpener? character = none)
    (closesNothing : Family.ofCloser? character = none) :
    unwind stack (character :: rest) = unwind stack rest := by
  simp [unwind, opensNothing, closesNothing]

/-- Two texts behind each other are read one after the other. -/
theorem unwind_append
    (stack : List Family)
    (left right : List Char) :
    unwind stack (left ++ right) =
      (unwind stack left).bind fun between => unwind between right := by
  induction left generalizing stack with
  | nil =>
      rfl
  | cons character rest inductionHypothesis =>
      rw [List.cons_append]
      rcases Family.opener_or_closer_or_neither character with
          ⟨family, rfl⟩ | ⟨family, rfl⟩ | ⟨opensNothing, closesNothing⟩
      · simp [inductionHypothesis]
      · cases stack with
        | nil =>
            simp
        | cons top below =>
            by_cases same : top = family
            · simp [same, inductionHypothesis]
            · simp [same]
      · simp [unwind_cons_of_neither opensNothing closesNothing,
          inductionHypothesis]

/-- The stack holds every bracket that has been opened and not closed. -/
theorem count_of_unwind
    (read : unwind stack text = some final)
    (family : Family) :
    final.count family + closers family text =
      stack.count family + openers family text := by
  induction text generalizing stack with
  | nil =>
      cases read
      rfl
  | cons character rest inductionHypothesis =>
      rcases Family.opener_or_closer_or_neither character with
          ⟨other, rfl⟩ | ⟨other, rfl⟩ | ⟨opensNothing, closesNothing⟩
      · rw [unwind_cons_opener] at read
        have later := inductionHypothesis read
        simp only [List.count_cons, beq_iff_eq] at later
        simp only [openers_cons_opener, closers_cons_opener]
        omega
      · cases stack with
        | nil =>
            simp at read
        | cons top below =>
            by_cases same : top = other
            · subst other
              rw [unwind_cons_cons_closer, if_pos rfl] at read
              have later := inductionHypothesis read
              simp only [List.count_cons, beq_iff_eq,
                openers_cons_closer, closers_cons_closer]
              omega
            · simp [same] at read
      · rw [unwind_cons_of_neither opensNothing closesNothing] at read
        rw [openers_cons_of_ofOpener? opensNothing,
          closers_cons_of_ofCloser? closesNothing]
        exact inductionHypothesis read

/-- Brackets below those that a text closes stay where they are.  They are out
of reach as long as the text closes no more of the uppermost one's family than
has been opened above it. -/
theorem unwind_append_below
    {above below : List Family}
    (enough :
      ∀ front, front <+: text →
        closers family front ≤
          openers family front + above.count family) :
    unwind (above ++ family :: below) text =
      (unwind above text).map (· ++ family :: below) := by
  induction text generalizing above with
  | nil =>
      rfl
  | cons character rest inductionHypothesis =>
      have later
          {front : List Char}
          (isFront : front <+: rest) :
          character :: front <+: character :: rest :=
        List.cons_prefix_cons.mpr ⟨rfl, isFront⟩
      rcases Family.opener_or_closer_or_neither character with
          ⟨other, rfl⟩ | ⟨other, rfl⟩ | ⟨opensNothing, closesNothing⟩
      · rw [unwind_cons_opener, unwind_cons_opener, ← List.cons_append]
        apply inductionHypothesis
        intro front isFront
        have here := enough _ (later isFront)
        simp only [openers_cons_opener, closers_cons_opener] at here
        simp only [List.count_cons, beq_iff_eq]
        omega
      · cases above with
        | nil =>
            have here := enough _ (later List.nil_prefix)
            have different : family ≠ other := by
              rintro rfl
              simp at here
            simp [different]
        | cons top above =>
            by_cases same : top = other
            · subst other
              simp only [List.cons_append, unwind_cons_cons_closer,
                ↓reduceIte]
              apply inductionHypothesis
              intro front isFront
              have here := enough _ (later isFront)
              simp only [openers_cons_closer, closers_cons_closer,
                List.count_cons, beq_iff_eq] at here
              omega
            · simp [same]
      · rw [unwind_cons_of_neither opensNothing closesNothing,
          unwind_cons_of_neither opensNothing closesNothing]
        apply inductionHypothesis
        intro front isFront
        have here := enough _ (later isFront)
        rwa [openers_cons_of_ofOpener? opensNothing,
          closers_cons_of_ofCloser? closesNothing] at here

end Reading

namespace ProperlyNested

variable {family : Family} {text interior back : List Char}

/-- A text that nests properly is balanced in every family. -/
theorem balanced
    (nested : ProperlyNested text) :
    Balanced text := by
  intro family
  refine ⟨?_, ?_⟩
  · rintro front ⟨more, rfl⟩
    rw [ProperlyNested, unwind_append, Option.bind_eq_some_iff] at nested
    obtain ⟨between, read, -⟩ := nested
    have counted := count_of_unwind read family
    rw [List.count_nil] at counted
    omega
  · have counted := count_of_unwind nested family
    simpa [eq_comm] using counted

/-- A group nests properly with what is behind it exactly if its interior does
so by itself. -/
theorem group_append_iff
    (balanced : BalancedIn family interior) :
    ProperlyNested
        (family.opener :: interior ++ family.closer :: back) ↔
      ProperlyNested interior ∧ ProperlyNested back := by
  have enough :
      ∀ front, front <+: interior →
        closers family front ≤
          openers family front + ([] : List Family).count family :=
    balanced.covered
  have separated :
      unwind [family] interior =
        (unwind [] interior).map (· ++ [family]) :=
    unwind_append_below enough
  rw [ProperlyNested, List.cons_append, unwind_cons_opener,
    unwind_append, separated]
  cases read : unwind [] interior with
  | none =>
      simp [ProperlyNested, read]
  | some inside =>
      cases inside with
      | nil =>
          simp [ProperlyNested, read]
      | cons top inside =>
          -- What the interior leaves open is of another family.
          have counted := count_of_unwind read family
          have level := balanced.level
          have different : top ≠ family := by
            rintro rfl
            simp only [List.count_cons_self, List.count_nil] at counted
            omega
          simp [ProperlyNested, read, different]

end ProperlyNested

/-- A text that starts with a group nests properly exactly if the interiors of
its groups at top level do, once this is known of what is behind the group. -/
private theorem group_append_iff_topGroups
    {family : Family}
    {interior back : List Char}
    (balanced :
      Balanced (family.opener :: interior ++ family.closer :: back))
    (interiorBalanced : BalancedIn family interior)
    (behind :
      Balanced back →
        (ProperlyNested back ↔
          ∀ other inside,
            TopGroup back other inside → ProperlyNested inside)) :
    ProperlyNested
        (family.opener :: interior ++ family.closer :: back) ↔
      ∀ other inside,
        TopGroup (family.opener :: interior ++ family.closer :: back)
            other inside →
          ProperlyNested inside := by
  have first :
      TopGroup (family.opener :: interior ++ family.closer :: back)
        family interior :=
    ⟨[], back, rfl, .nil, interiorBalanced⟩
  rw [ProperlyNested.group_append_iff interiorBalanced]
  by_cases nested : ProperlyNested interior
  · -- The group closes all it opens, so what is behind it is balanced.
    have wrapped := nested.balanced.wrap family
    have regrouped :
        family.opener :: interior ++ family.closer :: back =
          (family.opener :: interior ++ [family.closer]) ++ back := by
      simp
    rw [regrouped] at balanced ⊢
    have backBalanced := (balanced.split wrapped.level).2
    simp only [nested, true_and, behind backBalanced,
      TopGroup.append_iff wrapped, TopGroup.wrap_iff interiorBalanced]
    constructor
    · rintro areNested other inside (⟨rfl, rfl⟩ | isBehind)
      · exact nested
      · exact areNested other inside isBehind
    · intro areNested other inside isBehind
      exact areNested other inside (.inr isBehind)
  · refine iff_of_false (fun both => nested both.1) ?_
    intro areNested
    exact nested (areNested family interior first)

/-- A balanced text nests properly exactly if what stands in each of its groups
at top level does. -/
theorem properlyNested_iff_topGroups
    {text : List Char}
    (balanced : Balanced text) :
    ProperlyNested text ↔
      ∀ family interior,
        TopGroup text family interior → ProperlyNested interior := by
  induction size : text.length using Nat.strongRecOn
    generalizing text with
  | ind length inductionHypothesis =>
      cases text with
      | nil =>
          refine iff_of_true rfl ?_
          intro family interior group
          have member := group.opener_mem
          contradiction
      | cons character rest =>
          rcases Family.opener_or_closer_or_neither character with
              ⟨family, rfl⟩ | ⟨family, rfl⟩ |
                ⟨opensNothing, closesNothing⟩
          · obtain ⟨interior, back, rfl, interiorBalanced⟩ :=
              @Balanced.exists_interior [] rest family balanced
            refine group_append_iff_topGroups balanced interiorBalanced ?_
            intro backBalanced
            refine inductionHypothesis _ ?_ backBalanced rfl
            simp only [List.length_cons, List.length_append] at size
            omega
          · have enough :=
              (balanced family).covered [family.closer] ⟨rest, rfl⟩
            simp at enough
          · have alone : Balanced [character] :=
              .of_no_bracket (by simpa using opensNothing)
                (by simpa using closesNothing)
            have restBalanced :=
              (@Balanced.split [character] rest balanced alone.level).2
            have shorter : rest.length < length := by
              simp only [List.length_cons] at size
              omega
            have noGroup
                (family : Family)
                (interior : List Char) :
                ¬ TopGroup [character] family interior := by
              intro group
              have isOpener := List.mem_singleton.mp group.opener_mem
              exact Family.ne_opener_of_ofOpener? opensNothing family
                isOpener.symm
            have behind :=
              inductionHypothesis _ shorter restBalanced rfl
            rw [← List.singleton_append] at balanced ⊢
            simp only [TopGroup.append_iff alone, noGroup, false_or]
            rw [← behind, ProperlyNested, List.singleton_append,
              unwind_cons_of_neither opensNothing closesNothing,
              ProperlyNested]

/-- Brackets of one family alone cannot cross. -/
theorem Balanced.properlyNested_of_one_family
    {text : List Char}
    {inner : Family}
    (balanced : Balanced text)
    (onlyInner : ∀ family : Family, family.opener ∈ text → family = inner) :
    ProperlyNested text := by
  induction size : text.length using Nat.strongRecOn
    generalizing text with
  | ind length inductionHypothesis =>
      rw [properlyNested_iff_topGroups balanced]
      intro family interior group
      have isInner := onlyInner family group.opener_mem
      have covered := group.covered balanced
      obtain ⟨front, back, rfl, -, interiorBalanced⟩ := group
      have onlyInside
          (other : Family)
          (member : other.opener ∈ interior) :
          other = inner :=
        onlyInner other (by simp [member])
      refine inductionHypothesis interior.length ?_ ?_ onlyInside rfl
      · rw [← size]
        simp only [List.length_append, List.length_cons]
        omega
      · intro other
        by_cases same : other = family
        · exact same ▸ interiorBalanced
        · have noOpener : other.opener ∉ interior := by
            intro member
            exact same ((onlyInside other member).trans isInner.symm)
          have enough := (covered other).closers_le
          have noneOpened : openers other interior = 0 :=
            List.count_eq_zero.mpr noOpener
          exact ⟨covered other, by omega⟩

end ApiIndex.Bracket

import ApiIndex.Proofs.Signature.Grammar
import ApiIndex.Proofs.Text.Run

namespace ApiIndex.Signature

open ApiIndex.Text
open ApiIndex.Bracket

/-!
# Segments are read by their grammar

Reading the suffixes of a segment moves a cursor whose offset is the size of
the text before it.  Each step reads exactly one suffix of the grammar, and
what has been seen so far admits exactly the suffixes that may still follow.
Reading to the end of the segment therefore succeeds on the lists of suffixes
that the grammar allows, and checking a segment on the segments of the grammar.
-/

/-- What is remembered of a suffix. -/
def Suffixes.note
    (seen : Suffixes) :
    Suffix → Suffixes
  | .typeArity _ =>
      { seen with typeArity := true }
  | .methodArity _ =>
      { seen with methodArity := true }
  | .generic .. =>
      { seen with generic := true }
  | .indexer _ =>
      { seen with indexer := true }

/-- Whether a suffix may follow what has been seen. -/
def Suffixes.Admits
    (seen : Suffixes)
    (suffix : Suffix) :
    Prop :=
  seen.indexer = false ∧
    match suffix with
    | .typeArity _ =>
        seen.methodArity = false ∧ seen.typeArity = false
    | .methodArity _ =>
        seen.methodArity = false
    | .generic .. =>
        seen.generic = false
    | .indexer _ =>
        True

/-- Remembering a suffix rules out exactly what the suffix may not precede. -/
theorem Suffixes.admits_note_iff
    {seen : Suffixes}
    {suffix later : Suffix} :
    (seen.note suffix).Admits later ↔
      seen.Admits later ∧ suffix.MayPrecede later := by
  cases suffix <;> cases later <;>
    simp [Suffixes.note, Suffixes.Admits, Suffix.MayPrecede]

theorem Suffixes.admits_initial
    (suffix : Suffix) :
    Suffixes.Admits {} suffix := by
  cases suffix <;> simp [Suffixes.Admits]

/-- Whether a suffix ends where a rest starts.  Digits are read as far as they
go, so no digit follows an arity. -/
def Suffix.EndsBefore
    (rest : List Char) :
    Suffix → Prop
  | .typeArity _ | .methodArity _ =>
      ∀ first, rest.head? = some first → isAsciiDigit first = false
  | _ =>
      True

/-- One suffix of the grammar at the start of a text. -/
structure Step
    (position : Position)
    (seen : Suffixes)
    (text : List Char)
    (suffix : Suffix)
    (rest : List Char) : Prop where
  shape : text = suffix.text ++ rest
  wellFormed : suffix.WellFormed
  allowed : position.Allows suffix
  admitted : seen.Admits suffix
  ends : suffix.EndsBefore rest

theorem allowsMethodArity_iff
    {position : Position} :
    position.allowsMethodArity = true ↔ position = .callableMember := by
  cases position <;> decide

theorem allowsIndexer_iff
    {position : Position} :
    position.allowsIndexer = true ↔ position ≠ .qualifier := by
  cases position <;> decide

section Arity

variable {position : Position} {seen : Suffixes} {offset : Nat}

/-- An arity is read as backticks and the digits behind them. -/
private theorem readArity_eq
    {ticks : Nat}
    {digits rest : List Char}
    (areDigits : ∀ digit ∈ digits, isAsciiDigit digit = true)
    (noTick :
      ∀ first, (digits ++ rest).head? = some first → first ≠ '\x60')
    (stops :
      ∀ first, rest.head? = some first → isAsciiDigit first = false) :
    readArity position
        ⟨seen, offset,
          List.replicate ticks '\x60' ++ (digits ++ rest)⟩ =
      if 2 < ticks ∨ digits = [] then
        .error (.malformedArity offset)
      else if ticks = 1 then
        if seen.methodArity then
          .error (.arityOrder offset)
        else if seen.typeArity then
          .error (.repeatedArity offset)
        else
          .ok ⟨{ seen with typeArity := true },
            offset + ticks + digits.length, rest⟩
      else if !position.allowsMethodArity then
        .error (.methodArityNotAllowed offset)
      else if seen.methodArity then
        .error (.repeatedArity offset)
      else
        .ok ⟨{ seen with methodArity := true },
          offset + ticks + digits.length, rest⟩ := by
  have tickRun :=
    @takeWhile_dropWhile_run (· == '\x60')
      (List.replicate ticks '\x60') (digits ++ rest)
      (by simp) (by simpa using noTick)
  have digitRun :=
    @takeWhile_dropWhile_run isAsciiDigit digits rest areDigits stops
  simp only [readArity, tickRun.1, tickRun.2, digitRun.1, digitRun.2,
    List.length_replicate]

/-- Every text is some backticks, some digits and a rest. -/
private theorem exists_ticks_digits
    (text : List Char) :
    ∃ (ticks : Nat) (digits rest : List Char),
      text = List.replicate ticks '\x60' ++ (digits ++ rest) ∧
        (∀ digit ∈ digits, isAsciiDigit digit = true) ∧
        (∀ first,
          (digits ++ rest).head? = some first → first ≠ '\x60') ∧
        ∀ first,
          rest.head? = some first → isAsciiDigit first = false := by
  have tickRun :
      text.takeWhile (· == '\x60') =
        List.replicate (text.takeWhile (· == '\x60')).length '\x60' := by
    apply List.eq_replicate_of_mem
    intro character member
    simpa using List.mem_takeWhile_imp member
  refine
    ⟨(text.takeWhile (· == '\x60')).length,
      (text.dropWhile (· == '\x60')).takeWhile isAsciiDigit,
      (text.dropWhile (· == '\x60')).dropWhile isAsciiDigit,
      ?_, ?_, ?_, stops_dropWhile isAsciiDigit _⟩
  · rw [← tickRun, List.takeWhile_append_dropWhile,
      List.takeWhile_append_dropWhile]
  · intro digit member
    exact List.mem_takeWhile_imp member
  · rw [List.takeWhile_append_dropWhile]
    intro first isFirst
    simpa using stops_dropWhile (· == '\x60') text first isFirst

theorem utf8Size_of_isAsciiDigit
    {digit : Char}
    (isDigit : isAsciiDigit digit = true) :
    digit.utf8Size = 1 := by
  simp only [isAsciiDigit, Bool.and_eq_true, decide_eq_true_eq,
    Char.le_def, UInt32.le_iff_toNat_le] at isDigit
  rw [Char.utf8Size_eq_one_iff, UInt32.le_iff_toNat_le]
  exact Nat.le_trans isDigit.2 (by decide)

/-- Backticks and digits take one byte each. -/
private theorem byteSize_ticks_digits
    {digits : List Char}
    (areDigits : ∀ digit ∈ digits, isAsciiDigit digit = true)
    (ticks : Nat) :
    byteSize (List.replicate ticks '\x60' ++ digits) =
      ticks + digits.length := by
  have oneByte :
      ∀ character ∈ List.replicate ticks '\x60' ++ digits,
        character.utf8Size = 1 := by
    intro character member
    rcases List.mem_append.mp member with isTick | isDigit
    · rw [List.eq_of_mem_replicate isTick]
      decide
    · exact utf8Size_of_isAsciiDigit (areDigits character isDigit)
  rw [byteSize_eq_length oneByte, List.length_append,
    List.length_replicate]

private theorem noTick_of_digits
    {digits rest : List Char}
    (nonempty : digits ≠ [])
    (areDigits : ∀ digit ∈ digits, isAsciiDigit digit = true) :
    ∀ first, (digits ++ rest).head? = some first → first ≠ '\x60' := by
  obtain ⟨digit, digits, rfl⟩ := List.exists_cons_of_ne_nil nonempty
  have isDigit := areDigits digit (by simp)
  intro first isFirst
  simp only [List.cons_append, List.head?_cons,
    Option.some.injEq] at isFirst
  subst first
  rintro rfl
  exact absurd isDigit (by decide)

/-- An arity that is read is one of the grammar. -/
private theorem exists_step_of_readArity
    {inside : List Char}
    {next : Cursor}
    (noIndexer : seen.indexer = false)
    (read :
      readArity position ⟨seen, offset, '\x60' :: inside⟩ = .ok next) :
    ∃ suffix rest,
      Step position seen ('\x60' :: inside) suffix rest ∧
        next =
          ⟨seen.note suffix, offset + byteSize suffix.text, rest⟩ := by
  obtain ⟨ticks, digits, rest, shape, areDigits, noTick, stops⟩ :=
    exists_ticks_digits ('\x60' :: inside)
  have size := byteSize_ticks_digits areDigits
  rw [shape, readArity_eq areDigits noTick stops] at read
  rw [shape]
  have wellMade : ¬ (2 < ticks ∨ digits = []) := by
    intro malformed
    simp [malformed] at read
  have someTicks : ticks ≠ 0 := by
    rintro rfl
    exact noTick '\x60' (by simpa using congrArg List.head? shape.symm) rfl
  rw [if_neg wellMade] at read
  simp only [not_or, Nat.not_lt] at wellMade
  by_cases oneTick : ticks = 1
  · subst ticks
    have admitted :
        seen.methodArity = false ∧ seen.typeArity = false := by
      cases method : seen.methodArity <;>
        cases type : seen.typeArity <;> simp_all
    rw [if_pos rfl, if_neg (by simp [admitted.1]),
      if_neg (by simp [admitted.2])] at read
    cases read
    refine ⟨.typeArity digits, rest, ?_, ?_⟩
    · exact ⟨rfl, ⟨wellMade.2, areDigits⟩, trivial,
        ⟨noIndexer, admitted⟩, stops⟩
    · rw [Nat.add_assoc, ← size 1]
      rfl
  · have twoTicks : ticks = 2 := by
      omega
    subst ticks
    have admitted :
        position.allowsMethodArity = true ∧
          seen.methodArity = false := by
      cases allows : position.allowsMethodArity <;>
        cases method : seen.methodArity <;> simp_all
    rw [if_neg oneTick, if_neg (by simp [admitted.1]),
      if_neg (by simp [admitted.2])] at read
    cases read
    refine ⟨.methodArity digits, rest, ?_, ?_⟩
    · exact ⟨rfl, ⟨wellMade.2, areDigits⟩,
        allowsMethodArity_iff.mp admitted.1,
        ⟨noIndexer, admitted.2⟩, stops⟩
    · rw [Nat.add_assoc, ← size 2]
      rfl

/-- An arity of the grammar is read. -/
private theorem readArity_of_step
    {inside rest : List Char}
    {suffix : Suffix}
    (step : Step position seen ('\x60' :: inside) suffix rest) :
    readArity position ⟨seen, offset, '\x60' :: inside⟩ =
      .ok ⟨seen.note suffix, offset + byteSize suffix.text, rest⟩ := by
  obtain ⟨shape, wellFormed, allowed, admitted, ends⟩ := step
  cases suffix with
  | typeArity digits =>
      have size := byteSize_ticks_digits wellFormed.2 1
      have regrouped :
          '\x60' :: inside =
            List.replicate 1 '\x60' ++ (digits ++ rest) :=
        shape
      rw [regrouped, readArity_eq wellFormed.2
        (noTick_of_digits wellFormed.1 wellFormed.2) ends,
        if_neg (by simp [wellFormed.1]), if_pos rfl,
        if_neg (by simp [admitted.2.1]),
        if_neg (by simp [admitted.2.2]), Nat.add_assoc, ← size]
      rfl
  | methodArity digits =>
      have size := byteSize_ticks_digits wellFormed.2 2
      have regrouped :
          '\x60' :: inside =
            List.replicate 2 '\x60' ++ (digits ++ rest) :=
        shape
      rw [regrouped, readArity_eq wellFormed.2
        (noTick_of_digits wellFormed.1 wellFormed.2) ends,
        if_neg (by simp [wellFormed.1]), if_neg (by simp),
        if_neg (by simp [allowsMethodArity_iff.mpr allowed]),
        if_neg (by simp [admitted.2]), Nat.add_assoc, ← size]
      rfl
  | generic family interior =>
      have impossible := (List.cons.inj shape).1
      cases family <;> exact absurd impossible (by decide)
  | indexer interior =>
      exact absurd (List.cons.inj shape).1 (by decide)

/-- Reading an arity reads one arity of the grammar. -/
theorem readArity_eq_ok_iff
    {inside : List Char}
    {next : Cursor}
    (noIndexer : seen.indexer = false) :
    readArity position ⟨seen, offset, '\x60' :: inside⟩ = .ok next ↔
      ∃ suffix rest,
        Step position seen ('\x60' :: inside) suffix rest ∧
          next =
            ⟨seen.note suffix, offset + byteSize suffix.text, rest⟩ := by
  constructor
  · exact exists_step_of_readArity noIndexer
  · rintro ⟨suffix, rest, step, rfl⟩
    exact readArity_of_step step

end Arity

theorem firstOutsider?_eq_none_iff
    {offset : Nat}
    {text : List Char} :
    firstOutsider? offset text = none ↔
      ∀ character ∈ text, isGroupCharacter character = true := by
  induction text generalizing offset with
  | nil =>
      simp [firstOutsider?]
  | cons character rest inductionHypothesis =>
      by_cases inside : isGroupCharacter character = true
      · simp [firstOutsider?, inside, inductionHypothesis]
      · simp [firstOutsider?, inside]

theorem checkGroup_eq_ok_iff
    {offset : Nat}
    {text : List Char} :
    checkGroup offset text = .ok () ↔ Interior text := by
  constructor
  · intro checked
    unfold checkGroup at checked
    split at checked
    · contradiction
    · next allInside =>
        split at checked
        · contradiction
        · next scanned isScan =>
            exact ⟨firstOutsider?_eq_none_iff.mp allInside,
              (scan_eq_ok_iff.mp isScan).1⟩
  · intro holds
    have allInside :=
      (@firstOutsider?_eq_none_iff offset text).mpr holds.characters
    have scanned := scan_eq_ok_iff.mpr ⟨holds.balanced, rfl⟩
    simp [checkGroup, allInside, scanned]

section Group

variable
  {position : Position}
  {seen : Suffixes}
  {family : Family}
  {front inside back : List Char}

/-- The suffix that a group of a family is. -/
def Suffix.ofGroup
    (family : Family)
    (interior : List Char) :
    Suffix :=
  match family with
  | .square =>
      .indexer interior
  | family =>
      .generic family interior

theorem Suffix.text_ofGroup
    (family : Family)
    (interior : List Char) :
    (Suffix.ofGroup family interior).text =
      family.opener :: interior ++ [family.closer] := by
  cases family <;> rfl

/-- A group is noted where the grammar allows and admits it. -/
theorem noteGroup_eq_ok_iff
    {offset : Nat}
    {interior : List Char}
    {noted : Suffixes}
    (noIndexer : seen.indexer = false) :
    noteGroup position family offset seen = .ok noted ↔
      position.Allows (.ofGroup family interior) ∧
        seen.Admits (.ofGroup family interior) ∧
        noted = seen.note (.ofGroup family interior) := by
  have generic :
      (if seen.generic = true then
          Except.error (Failure.repeatedGroup family offset)
        else
          .ok { seen with generic := true }) = .ok noted ↔
        seen.generic = false ∧ noted = { seen with generic := true } := by
    cases seen.generic <;> simp [eq_comm]
  have indexer :
      (if position.allowsIndexer = true then
          Except.ok { seen with indexer := true }
        else
          .error (Failure.indexerNotAllowed offset)) = .ok noted ↔
        position ≠ .qualifier ∧
          noted = { seen with indexer := true } := by
    rw [← allowsIndexer_iff]
    cases position.allowsIndexer <;> simp [eq_comm]
  cases family <;>
    simp only [noteGroup, Suffix.ofGroup, Position.Allows,
      Suffixes.Admits, Suffixes.note, reduceCtorEq, ↓reduceIte,
      generic, indexer] <;>
    simp [noIndexer]

theorem Suffix.wellFormed_ofGroup_iff
    {interior : List Char}
    (notParen : family ≠ .paren) :
    (Suffix.ofGroup family interior).WellFormed ↔ Interior interior := by
  cases family <;> simp_all [Suffix.ofGroup, Suffix.WellFormed]

/-- A suffix that starts with an opener is a group of its family. -/
private theorem Step.exists_ofGroup
    {suffix : Suffix}
    {rest : List Char}
    (step :
      Step position seen (family.opener :: inside) suffix rest) :
    ∃ interior, suffix = .ofGroup family interior := by
  obtain ⟨shape, wellFormed, -, -, -⟩ := step
  cases suffix with
  | typeArity digits =>
      have impossible := (List.cons.inj shape).1
      cases family <;> exact absurd impossible (by decide)
  | methodArity digits =>
      have impossible := (List.cons.inj shape).1
      cases family <;> exact absurd impossible (by decide)
  | generic other interior =>
      have same : family = other :=
        Family.opener_inj.mp (List.cons.inj shape).1
      subst other
      rcases wellFormed.1 with rfl | rfl
      · exact ⟨interior, rfl⟩
      · exact ⟨interior, rfl⟩
  | indexer interior =>
      have same : family = .square :=
        Family.opener_inj.mp (List.cons.inj shape).1
      subst family
      exact ⟨interior, rfl⟩

/-- The closer of a group inside a segment is found behind its interior, and
cutting there gives the interior and what is behind the group. -/
theorem group_of_shape
    {interior rest : List Char}
    (covered : Covered family front)
    (balanced : BalancedIn family interior)
    (shape : inside = interior ++ family.closer :: rest) :
    let close := byteSize (front ++ family.opener :: interior)
    (marked (front ++ family.opener :: inside ++ back)).closerOf?
          (byteSize front) = some close ∧
      close < byteSize (front ++ family.opener :: inside) ∧
      takeBytes (close - (byteSize front + 1)) inside = interior ∧
      dropBytes (close - byteSize front) inside = rest ∧
      close + 1 =
        byteSize
          (front ++ (family.opener :: interior ++ [family.closer])) := by
  have opened := family.utf8Size_opener
  have closed := family.utf8Size_closer
  have interiorSize :
      byteSize (front ++ family.opener :: interior) -
          (byteSize front + 1) =
        byteSize interior := by
    simp only [byteSize_append, byteSize_cons]
    omega
  have groupSize :
      byteSize (front ++ family.opener :: interior) - byteSize front =
        byteSize (interior ++ [family.closer]) := by
    simp only [byteSize_append, byteSize_cons, byteSize_nil]
    omega
  have regrouped :
      interior ++ family.closer :: rest =
        interior ++ [family.closer] ++ rest := by
    simp
  subst inside
  dsimp only
  refine ⟨?_, ?_, ?_, ?_, ?_⟩
  · simpa using @closerOf?_eq_some front interior (rest ++ back)
      family covered balanced
  · simp only [byteSize_append, byteSize_cons]
    omega
  · rw [interiorSize]
    exact takeBytes_byteSize_append _ _
  · rw [groupSize, regrouped]
    exact dropBytes_byteSize_append _ _
  · simp only [byteSize_append, byteSize_cons, byteSize_nil]
    omega

/-- A group is read up to the closer behind its interior: the interior is
checked and the group is noted. -/
theorem readGroup_eq_of_shape
    {interior rest : List Char}
    (covered : Covered family front)
    (balanced : BalancedIn family interior)
    (shape : inside = interior ++ family.closer :: rest) :
    readGroup (marked (front ++ family.opener :: inside ++ back))
        position (byteSize (front ++ family.opener :: inside)) family
        ⟨seen, byteSize front, family.opener :: inside⟩ inside =
      (checkGroup (byteSize front + 1) interior).bind fun () =>
        (noteGroup position family (byteSize front) seen).map fun noted =>
          ⟨noted,
            byteSize
              (front ++ (family.opener :: interior ++ [family.closer])),
            rest⟩ := by
  obtain ⟨close, within, taken, dropped, nextOffset⟩ :=
    @group_of_shape family front inside back interior rest covered
      balanced shape
  simp only [readGroup, close, Option.filter_some, within,
    decide_true, ↓reduceIte, nextOffset, taken, dropped]
  cases checkGroup (byteSize front + 1) interior with
  | error failure =>
      rfl
  | ok checked =>
      cases noteGroup position family (byteSize front) seen <;> rfl

private theorem readGroup_eq_ok_iff_of_shape
    {interior rest : List Char}
    {next : Cursor}
    (covered : Covered family front)
    (balanced : BalancedIn family interior)
    (shape : inside = interior ++ family.closer :: rest) :
    readGroup (marked (front ++ family.opener :: inside ++ back))
          position (byteSize (front ++ family.opener :: inside)) family
          ⟨seen, byteSize front, family.opener :: inside⟩ inside =
        .ok next ↔
      Interior interior ∧
        ∃ noted,
          noteGroup position family (byteSize front) seen = .ok noted ∧
            next =
              ⟨noted,
                byteSize
                  (front ++
                    (family.opener :: interior ++ [family.closer])),
                rest⟩ := by
  rw [readGroup_eq_of_shape covered balanced shape,
    ← @checkGroup_eq_ok_iff (byteSize front + 1)]
  cases checkGroup (byteSize front + 1) interior with
  | error failure =>
      simp [Except.bind]
  | ok checked =>
      cases noteGroup position family (byteSize front) seen with
      | error failure =>
          simp [Except.bind, Except.map]
      | ok noted =>
          simp [Except.bind, Except.map, eq_comm]

/-- The closer of a group that is read stands inside the segment. -/
private theorem exists_rest_of_readGroup
    {interior more : List Char}
    {next : Cursor}
    (covered : Covered family front)
    (shape : inside ++ back = interior ++ family.closer :: more)
    (balanced : BalancedIn family interior)
    (read :
      readGroup (marked (front ++ family.opener :: inside ++ back))
          position (byteSize (front ++ family.opener :: inside)) family
          ⟨seen, byteSize front, family.opener :: inside⟩ inside =
        .ok next) :
    ∃ rest, inside = interior ++ family.closer :: rest := by
  have regrouped :
      front ++ family.opener :: inside ++ back =
        front ++ family.opener :: interior ++ family.closer :: more := by
    simp [shape]
  have within : byteSize interior < byteSize inside := by
    apply Decidable.byContradiction
    intro beyond
    have notBefore :
        ¬ byteSize (front ++ family.opener :: interior) <
          byteSize (front ++ family.opener :: inside) := by
      simp only [byteSize_append, byteSize_cons]
      omega
    rw [regrouped] at read
    simp only [readGroup, closerOf?_eq_some covered balanced,
      Option.filter_some, notBefore, decide_false, Bool.false_eq_true,
      ↓reduceIte, reduceCtorEq] at read
  obtain ⟨between, rfl, rest⟩ :=
    exists_eq_append_of_byteSize_le shape.symm (Nat.le_of_lt within)
  cases between with
  | nil =>
      simp at within
  | cons first between =>
      obtain ⟨rfl, -⟩ := List.cons.inj rest
      exact ⟨between, rfl⟩

/-- Reading a group reads one group of the grammar. -/
theorem readGroup_eq_ok_iff
    {next : Cursor}
    (notParen : family ≠ .paren)
    (balanced : Balanced (front ++ family.opener :: inside ++ back))
    (noIndexer : seen.indexer = false) :
    readGroup (marked (front ++ family.opener :: inside ++ back))
          position (byteSize (front ++ family.opener :: inside)) family
          ⟨seen, byteSize front, family.opener :: inside⟩ inside =
        .ok next ↔
      ∃ suffix rest,
        Step position seen (family.opener :: inside) suffix rest ∧
          next =
            ⟨seen.note suffix, byteSize (front ++ suffix.text),
              rest⟩ := by
  have regrouped :
      front ++ family.opener :: inside ++ back =
        front ++ family.opener :: (inside ++ back) := by
    simp
  have covered : Covered family front := by
    rw [regrouped] at balanced
    exact (balanced family).covered.of_append
  constructor
  · intro read
    rw [regrouped] at balanced
    obtain ⟨interior, more, shape, interiorBalanced⟩ :=
      balanced.exists_interior
    obtain ⟨rest, insideShape⟩ :=
      exists_rest_of_readGroup covered shape interiorBalanced read
    obtain ⟨holds, noted, isNoted, rfl⟩ :=
      (readGroup_eq_ok_iff_of_shape covered interiorBalanced
        insideShape).mp read
    obtain ⟨allowed, admitted, rfl⟩ :=
      (@noteGroup_eq_ok_iff _ _ _ _ interior _ noIndexer).mp isNoted
    refine ⟨.ofGroup family interior, rest, ?_, ?_⟩
    · exact {
        shape := by
          simp [Suffix.text_ofGroup, insideShape]
        wellFormed :=
          (Suffix.wellFormed_ofGroup_iff notParen).mpr holds
        allowed := allowed
        admitted := admitted
        ends := by
          cases family <;> trivial
      }
    · rw [Suffix.text_ofGroup]
  · rintro ⟨suffix, rest, step, rfl⟩
    obtain ⟨interior, rfl⟩ := step.exists_ofGroup
    have holds :=
      (Suffix.wellFormed_ofGroup_iff notParen).mp step.wellFormed
    have insideShape :
        inside = interior ++ family.closer :: rest := by
      simpa [Suffix.text_ofGroup] using step.shape
    apply (readGroup_eq_ok_iff_of_shape covered
      (holds.balanced family) insideShape).mpr
    refine ⟨holds, _, ?_, by rw [Suffix.text_ofGroup]⟩
    exact (@noteGroup_eq_ok_iff _ _ _ _ interior _ noIndexer).mpr
      ⟨step.allowed, step.admitted, rfl⟩

end Group

section Suffixes

variable
  {position : Position}
  {seen : Suffixes}
  {front back : List Char}

/-- A suffix starts with a backtick or an opener other than a parenthesis. -/
private theorem Step.start
    {character : Char}
    {inside rest : List Char}
    {suffix : Suffix}
    (step : Step position seen (character :: inside) suffix rest) :
    character = '\x60' ∨
      ∃ family : Family,
        family ≠ .paren ∧ character = family.opener := by
  obtain ⟨shape, wellFormed, -, -, -⟩ := step
  cases suffix with
  | typeArity digits =>
      exact .inl (List.cons.inj shape).1
  | methodArity digits =>
      exact .inl (List.cons.inj shape).1
  | generic family interior =>
      refine .inr ⟨family, ?_, (List.cons.inj shape).1⟩
      rcases wellFormed.1 with rfl | rfl <;> decide
  | indexer interior =>
      exact .inr ⟨.square, by decide, (List.cons.inj shape).1⟩

/-- Behind suffixes of the grammar, neither an identifier nor an arity goes
on. -/
theorem head?_flatMap_text
    {suffixes : List Suffix}
    {first : Char}
    (isFirst : (suffixes.flatMap Suffix.text).head? = some first) :
    isIdentifier first = false ∧ isAsciiDigit first = false := by
  cases suffixes with
  | nil =>
      simp at isFirst
  | cons suffix suffixes =>
      obtain ⟨head, rest, textShape, stops⟩ := suffix.exists_text_eq_cons
      simp only [List.flatMap_cons, textShape, List.cons_append,
        List.head?_cons, Option.some.injEq] at isFirst
      subst first
      exact stops

/-- Behind suffixes of the grammar and a rest that does not go on with digits,
no arity goes on. -/
theorem isAsciiDigit_of_head?_append
    {suffixes : List Suffix}
    {rest : List Char}
    (stops :
      ∀ first, rest.head? = some first → isAsciiDigit first = false) :
    ∀ first,
      (suffixes.flatMap Suffix.text ++ rest).head? = some first →
        isAsciiDigit first = false := by
  intro first isFirst
  rw [List.head?_append, Option.or_eq_some_iff] at isFirst
  rcases isFirst with inSuffixes | ⟨-, inRest⟩
  · exact (head?_flatMap_text inSuffixes).2
  · exact stops first inRest

theorem Suffix.endsBefore_of_stops
    {rest : List Char}
    (suffix : Suffix)
    (stops :
      ∀ first, rest.head? = some first → isAsciiDigit first = false) :
    suffix.EndsBefore rest := by
  cases suffix with
  | typeArity digits =>
      exact stops
  | methodArity digits =>
      exact stops
  | generic family interior =>
      trivial
  | indexer interior =>
      trivial

/-- Reading a suffix reads one suffix of the grammar. -/
theorem readSuffix_eq_ok_iff
    {character : Char}
    {inside : List Char}
    {next : Cursor}
    (balanced : Balanced (front ++ character :: inside ++ back)) :
    readSuffix (marked (front ++ character :: inside ++ back))
          position (byteSize (front ++ character :: inside))
          ⟨seen, byteSize front, character :: inside⟩ character inside =
        .ok next ↔
      ∃ suffix rest,
        Step position seen (character :: inside) suffix rest ∧
          next =
            ⟨seen.note suffix, byteSize (front ++ suffix.text),
              rest⟩ := by
  cases indexer : seen.indexer with
  | true =>
      have noStep
          (suffix : Suffix)
          (rest : List Char) :
          ¬ Step position seen (character :: inside) suffix rest := by
        intro step
        have admitted := step.admitted.1
        simp [indexer] at admitted
      simp [readSuffix, indexer, noStep]
  | false =>
      by_cases isTick : character = '\x60'
      · subst character
        simp only [readSuffix, indexer, Bool.false_eq_true, ↓reduceIte,
          readArity_eq_ok_iff indexer, byteSize_append]
      · have noStep
            (notGroup :
              ∀ family : Family,
                family ≠ .paren → character ≠ family.opener)
            (suffix : Suffix)
            (rest : List Char) :
            ¬ Step position seen (character :: inside) suffix rest := by
          intro step
          rcases step.start with tick | ⟨family, notParen, opener⟩
          · exact isTick tick
          · exact notGroup family notParen opener
        cases opens : Family.ofOpener? character with
        | none =>
            have notGroup := fun family (_ : family ≠ .paren) =>
              Family.ne_opener_of_ofOpener? opens family
            simp [readSuffix, indexer, isTick, opens, noStep notGroup]
        | some family =>
            have isOpener := Family.eq_opener_of_ofOpener? opens
            subst character
            by_cases isParen : family = .paren
            · subst family
              have notGroup :
                  ∀ family : Family,
                    family ≠ .paren →
                      Family.paren.opener ≠ family.opener := by
                intro family notParen same
                exact notParen (Family.opener_inj.mp same).symm
              simp [readSuffix, indexer, isTick, opens,
                noStep notGroup]
            · rw [← readGroup_eq_ok_iff isParen balanced indexer]
              cases family <;>
                simp_all [readSuffix]

theorem readSuffixes_nil
    {scanned : Scan}
    {stop offset : Nat} :
    readSuffixes scanned position stop ⟨seen, offset, []⟩ = .ok () := by
  rw [readSuffixes]

theorem readSuffixes_of_ok
    {scanned : Scan}
    {stop offset : Nat}
    {character : Char}
    {inside : List Char}
    {next : Cursor}
    (read :
      readSuffix scanned position stop
          ⟨seen, offset, character :: inside⟩ character inside =
        .ok next) :
    readSuffixes scanned position stop
        ⟨seen, offset, character :: inside⟩ =
      readSuffixes scanned position stop next := by
  rw [readSuffixes]
  simp only
  split
  · next failure failed =>
      rw [read] at failed
      contradiction
  · next after readHere =>
      rw [Except.ok.inj (read.symm.trans readHere)]

theorem readSuffixes_of_error
    {scanned : Scan}
    {stop offset : Nat}
    {character : Char}
    {inside : List Char}
    {failure : Failure}
    (failed :
      readSuffix scanned position stop
          ⟨seen, offset, character :: inside⟩ character inside =
        .error failure) :
    readSuffixes scanned position stop
        ⟨seen, offset, character :: inside⟩ =
      .error failure := by
  rw [readSuffixes]
  simp only
  split
  · next other otherFailed =>
      rw [Except.error.inj (otherFailed.symm.trans failed)]
  · next after read =>
      rw [failed] at read
      contradiction

theorem readSuffixes_cons_eq_ok_iff
    {scanned : Scan}
    {stop offset : Nat}
    {character : Char}
    {inside : List Char} :
    readSuffixes scanned position stop
          ⟨seen, offset, character :: inside⟩ = .ok () ↔
      ∃ next,
        readSuffix scanned position stop
            ⟨seen, offset, character :: inside⟩ character inside =
          .ok next ∧
        readSuffixes scanned position stop next = .ok () := by
  cases read :
      readSuffix scanned position stop
        ⟨seen, offset, character :: inside⟩ character inside with
  | error failure =>
      simp [readSuffixes_of_error read]
  | ok next =>
      simp [readSuffixes_of_ok read]

/-- What is remembered of suffixes behind each other. -/
def Suffixes.noteAll
    (seen : Suffixes)
    (suffixes : List Suffix) :
    Suffixes :=
  suffixes.foldl Suffixes.note seen

/-- Suffixes of the grammar are read one after the other, up to a rest that
does not go on with digits. -/
theorem readSuffixes_append
    {suffixes : List Suffix}
    {rest : List Char}
    (balanced :
      Balanced (front ++ (suffixes.flatMap Suffix.text ++ rest) ++ back))
    (conform :
      ∀ suffix ∈ suffixes,
        suffix.WellFormed ∧ position.Allows suffix ∧
          seen.Admits suffix)
    (arranged : suffixes.Pairwise Suffix.MayPrecede)
    (stops :
      ∀ first, rest.head? = some first → isAsciiDigit first = false) :
    readSuffixes
        (marked (front ++ (suffixes.flatMap Suffix.text ++ rest) ++ back))
        position
        (byteSize (front ++ (suffixes.flatMap Suffix.text ++ rest)))
        ⟨seen, byteSize front, suffixes.flatMap Suffix.text ++ rest⟩ =
      readSuffixes
        (marked (front ++ (suffixes.flatMap Suffix.text ++ rest) ++ back))
        position
        (byteSize (front ++ (suffixes.flatMap Suffix.text ++ rest)))
        ⟨seen.noteAll suffixes,
          byteSize (front ++ suffixes.flatMap Suffix.text), rest⟩ := by
  induction suffixes generalizing front seen with
  | nil =>
      simp [Suffixes.noteAll]
  | cons suffix suffixes inductionHypothesis =>
      obtain ⟨wellFormed, allowed, admitted⟩ := conform suffix (by simp)
      obtain ⟨first, inside, textShape, -⟩ :=
        suffix.exists_text_eq_cons
      have shape :
          (suffix :: suffixes).flatMap Suffix.text ++ rest =
            first :: (inside ++
              (suffixes.flatMap Suffix.text ++ rest)) := by
        simp [textShape]
      have regrouped :
          front ++ first :: (inside ++
              (suffixes.flatMap Suffix.text ++ rest)) =
            front ++ suffix.text ++
              (suffixes.flatMap Suffix.text ++ rest) := by
        simp [textShape]
      have behind :
          front ++ (suffix :: suffixes).flatMap Suffix.text =
            front ++ suffix.text ++ suffixes.flatMap Suffix.text := by
        simp
      have step :
          Step position seen
            (first :: (inside ++ (suffixes.flatMap Suffix.text ++ rest)))
            suffix (suffixes.flatMap Suffix.text ++ rest) :=
        ⟨by simp [textShape], wellFormed, allowed, admitted,
          suffix.endsBefore_of_stops
            (isAsciiDigit_of_head?_append stops)⟩
      rw [shape] at balanced ⊢
      rw [readSuffixes_of_ok
        ((readSuffix_eq_ok_iff balanced).mpr ⟨suffix, _, step, rfl⟩)]
      rw [regrouped] at balanced ⊢
      rw [List.pairwise_cons] at arranged
      rw [behind]
      apply inductionHypothesis balanced _ arranged.2
      intro other member
      obtain ⟨otherWellFormed, otherAllowed, otherAdmitted⟩ :=
        conform other (by simp [member])
      exact ⟨otherWellFormed, otherAllowed,
        Suffixes.admits_note_iff.mpr
          ⟨otherAdmitted, arranged.1 other member⟩⟩

/-- What is read to the end are suffixes of the grammar. -/
private theorem exists_suffixes_of_readSuffixes
    {rest : List Char}
    (balanced : Balanced (front ++ rest ++ back))
    (read :
      readSuffixes (marked (front ++ rest ++ back)) position
          (byteSize (front ++ rest)) ⟨seen, byteSize front, rest⟩ =
        .ok ()) :
    ∃ suffixes : List Suffix,
      rest = suffixes.flatMap Suffix.text ∧
        (∀ suffix ∈ suffixes,
          suffix.WellFormed ∧ position.Allows suffix ∧
            seen.Admits suffix) ∧
        suffixes.Pairwise Suffix.MayPrecede := by
  induction size : rest.length using Nat.strongRecOn
    generalizing front rest seen with
  | ind length inductionHypothesis =>
      cases rest with
      | nil =>
          exact ⟨[], rfl, by simp, .nil⟩
      | cons character inside =>
          obtain ⟨next, readHere, readLater⟩ :=
            readSuffixes_cons_eq_ok_iff.mp read
          obtain ⟨suffix, later, step, rfl⟩ :=
            (readSuffix_eq_ok_iff balanced).mp readHere
          have shorter : later.length < length := by
            obtain ⟨first, others, textShape, -⟩ :=
              suffix.exists_text_eq_cons
            rw [← size, step.shape, textShape]
            simp only [List.cons_append, List.length_cons,
              List.length_append]
            omega
          rw [step.shape, ← List.append_assoc] at balanced readLater
          obtain ⟨suffixes, rfl, conform, arranged⟩ :=
            inductionHypothesis _ shorter balanced readLater rfl
          refine ⟨suffix :: suffixes, step.shape, ?_, ?_⟩
          · intro other member
            rcases List.mem_cons.mp member with rfl | isLater
            · exact ⟨step.wellFormed, step.allowed, step.admitted⟩
            · obtain ⟨wellFormed, allowed, admitted⟩ :=
                conform other isLater
              exact ⟨wellFormed, allowed,
                (Suffixes.admits_note_iff.mp admitted).1⟩
          · refine List.pairwise_cons.mpr ⟨?_, arranged⟩
            intro other isLater
            exact (Suffixes.admits_note_iff.mp
              (conform other isLater).2.2).2

/-- Reading suffixes to the end of a segment succeeds exactly on the lists of
suffixes that the grammar allows behind what has been seen. -/
theorem readSuffixes_eq_ok_iff
    {rest : List Char}
    (balanced : Balanced (front ++ rest ++ back)) :
    readSuffixes (marked (front ++ rest ++ back)) position
          (byteSize (front ++ rest)) ⟨seen, byteSize front, rest⟩ =
        .ok () ↔
      ∃ suffixes : List Suffix,
        rest = suffixes.flatMap Suffix.text ∧
          (∀ suffix ∈ suffixes,
            suffix.WellFormed ∧ position.Allows suffix ∧
              seen.Admits suffix) ∧
          suffixes.Pairwise Suffix.MayPrecede := by
  constructor
  · exact exists_suffixes_of_readSuffixes balanced
  · rintro ⟨suffixes, rfl, conform, arranged⟩
    rw [← List.append_nil (suffixes.flatMap Suffix.text)] at balanced ⊢
    rw [readSuffixes_append balanced conform arranged (by simp)]
    exact readSuffixes_nil

end Suffixes

/-- The identifier of a segment is the run of identifier characters at its
start, and its suffixes are the rest. -/
private theorem isSegment_iff_run
    {position : Position}
    {text : List Char} :
    IsSegment position text ↔
      Identifier (text.takeWhile isIdentifier) ∧
        ∃ suffixes : List Suffix,
          text.dropWhile isIdentifier = suffixes.flatMap Suffix.text ∧
            (∀ suffix ∈ suffixes,
              suffix.WellFormed ∧ position.Allows suffix ∧
                Suffixes.Admits {} suffix) ∧
            suffixes.Pairwise Suffix.MayPrecede := by
  constructor
  · rintro ⟨identifier, suffixes, rfl, isIdentifier, conform, arranged⟩
    obtain ⟨taken, dropped⟩ :=
      takeWhile_dropWhile_run isIdentifier.characters
        fun first isFirst => (@head?_flatMap_text suffixes _ isFirst).1
    rw [taken, dropped]
    refine ⟨isIdentifier, suffixes, rfl, ?_, arranged⟩
    intro suffix member
    exact ⟨(conform suffix member).1, (conform suffix member).2,
      Suffixes.admits_initial suffix⟩
  · rintro ⟨isIdentifier, suffixes, dropped, conform, arranged⟩
    refine ⟨_, suffixes, ?_, isIdentifier, ?_, arranged⟩
    · rw [← dropped, List.takeWhile_append_dropWhile]
    · intro suffix member
      exact ⟨(conform suffix member).1, (conform suffix member).2.1⟩

private theorem identifier_takeWhile_iff
    {character : Char}
    {rest : List Char} :
    Identifier ((character :: rest).takeWhile isIdentifier) ↔
      isIdentifier character = true ∧ isNumeric character = false := by
  constructor
  · rintro ⟨-, first, others, shape, notNumeric⟩
    by_cases inIdentifier : isIdentifier character = true
    · rw [List.takeWhile_cons_of_pos inIdentifier] at shape
      obtain ⟨rfl, -⟩ := List.cons.inj shape
      exact ⟨inIdentifier, notNumeric⟩
    · rw [List.takeWhile_cons_of_neg inIdentifier] at shape
      contradiction
  · rintro ⟨inIdentifier, notNumeric⟩
    refine ⟨fun other member => List.mem_takeWhile_imp member, ?_⟩
    exact ⟨character, _, List.takeWhile_cons_of_pos inIdentifier,
      notNumeric⟩

/-- A segment is checked successfully exactly if it is a segment of the
grammar. -/
theorem checkSegment_eq_ok_iff
    {position : Position}
    {front segment back : List Char}
    (balanced : Balanced (front ++ segment ++ back)) :
    checkSegment (marked (front ++ segment ++ back)) position
        ⟨byteSize front, byteSize (front ++ segment)⟩ = .ok () ↔
      IsSegment position segment := by
  have covers :
      slice (marked (front ++ segment ++ back)).text
          ⟨byteSize front, byteSize (front ++ segment)⟩ =
        segment :=
    slice_append front segment back
  rw [checkSegment, covers]
  cases segment with
  | nil =>
      have noSegment : ¬ IsSegment position [] :=
        fun segment => segment.ne_nil rfl
      simp [noSegment]
  | cons character rest =>
      rw [isSegment_iff_run, identifier_takeWhile_iff]
      by_cases starts :
          isIdentifier character = true ∧ isNumeric character = false
      · have divided :
            front ++ character :: rest =
              front ++ (character :: rest).takeWhile isIdentifier ++
                (character :: rest).dropWhile isIdentifier := by
          rw [List.append_assoc, List.takeWhile_append_dropWhile]
        rw [divided] at balanced ⊢
        simp only [starts, Bool.not_true, Bool.or_self,
          Bool.false_eq_true, ↓reduceIte, true_and, ← byteSize_append,
          and_self]
        exact readSuffixes_eq_ok_iff balanced
      · have rejected :
            (!isIdentifier character || isNumeric character) = true := by
          cases inIdentifier : isIdentifier character <;>
            cases numeric : isNumeric character <;> simp_all
        simp only [rejected, ↓reduceIte, reduceCtorEq, starts, false_and]

/-- Checking a segment that starts with an identifier reads the suffixes behind
the identifier. -/
theorem checkSegment_append
    {position : Position}
    {front identifier rest back : List Char}
    (holds : Identifier identifier)
    (stops :
      ∀ first, rest.head? = some first → isIdentifier first = false) :
    checkSegment (marked (front ++ (identifier ++ rest) ++ back)) position
        ⟨byteSize front, byteSize (front ++ (identifier ++ rest))⟩ =
      readSuffixes (marked (front ++ (identifier ++ rest) ++ back))
        position (byteSize (front ++ (identifier ++ rest)))
        ⟨{}, byteSize (front ++ identifier), rest⟩ := by
  have covers :
      slice (marked (front ++ (identifier ++ rest) ++ back)).text
          ⟨byteSize front, byteSize (front ++ (identifier ++ rest))⟩ =
        identifier ++ rest :=
    slice_append front (identifier ++ rest) back
  obtain ⟨first, others, rfl, notNumeric⟩ := holds.start
  have inIdentifier := holds.characters first (by simp)
  obtain ⟨taken, dropped⟩ :=
    takeWhile_dropWhile_run holds.characters stops
  rw [List.cons_append] at taken dropped
  rw [checkSegment, covers]
  simp only [List.cons_append, inIdentifier, notNumeric, Bool.not_true,
    Bool.or_self, Bool.false_eq_true, ↓reduceIte, taken, dropped,
    byteSize_append]

end ApiIndex.Signature

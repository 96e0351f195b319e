import ApiIndex.Bracket.Scan
import ApiIndex.Proofs.Bracket.Balance
import ApiIndex.Proofs.Text.Cut

namespace ApiIndex.Bracket

open ApiIndex.Text

/-!
# What a scan records

The marks of a text are described without the scan: each bracket and separator
is marked with its offset and with the number of brackets that are open around
it, counted in the part of the text before it.  A scan succeeds exactly on the
balanced texts, and its marks are these.

Marks of a text are the marks of its parts behind each other, so the marks
inside a span are the marks of what the span covers.
-/

namespace Depth

/-- Two depths with the same count of every family are the same. -/
theorem eq_of_get
    {depth other : Depth}
    (same : ∀ family, depth.get family = other.get family) :
    depth = other := by
  cases depth
  cases other
  simp only [mk.injEq]
  exact ⟨same .angle, same .brace, same .square, same .paren⟩

/-- The brackets that are open behind a text. -/
def behind
    (text : List Char) :
    Depth where
  angle := openers .angle text - closers .angle text
  brace := openers .brace text - closers .brace text
  square := openers .square text - closers .square text
  paren := openers .paren text - closers .paren text

@[simp] theorem get_behind
    (text : List Char)
    (family : Family) :
    (behind text).get family =
      openers family text - closers family text := by
  cases family <;> rfl

@[simp] theorem behind_nil :
    behind [] = {} :=
  rfl

/-- Behind an opener one more bracket of its family is open. -/
theorem behind_append_opener
    {text : List Char}
    {family : Family}
    (covered : Covered family text) :
    behind (text ++ [family.opener]) = (behind text).enter family := by
  apply eq_of_get
  intro other
  have enough := covered.closers_le
  by_cases same : other = family
  · subst other
    simp only [get_behind, get_enter, openers_append, closers_append,
      openers_cons_opener, closers_cons_opener, openers_nil,
      closers_nil, ↓reduceIte]
    omega
  · simp [get_enter, same, Ne.symm same]

/-- Behind a closer one bracket less of its family is open. -/
theorem behind_append_closer
    (text : List Char)
    (family : Family) :
    behind (text ++ [family.closer]) = (behind text).leave family := by
  apply eq_of_get
  intro other
  by_cases same : other = family
  · subst other
    simp only [get_behind, get_leave, openers_append, closers_append,
      openers_cons_closer, closers_cons_closer, openers_nil,
      closers_nil, ↓reduceIte]
    omega
  · simp [get_leave, same, Ne.symm same]

/-- Behind any other character the same brackets are open. -/
theorem behind_append_other
    {character : Char}
    (opensNothing : Family.ofOpener? character = none)
    (closesNothing : Family.ofCloser? character = none)
    (text : List Char) :
    behind (text ++ [character]) = behind text := by
  apply eq_of_get
  intro family
  simp [openers_cons_of_ofOpener? opensNothing,
    closers_cons_of_ofCloser? closesNothing]

/-- Nothing is open behind a covered text exactly if it closes all it
opens. -/
theorem isTop_behind_iff
    {text : List Char}
    (covered : ∀ family, Covered family text) :
    (behind text).isTop = true ↔ Level text := by
  rw [isTop_iff]
  constructor
  · intro top family
    have enough := (covered family).closers_le
    have zero := top family
    rw [get_behind] at zero
    omega
  · intro level family
    simp [level family]

/-- No family is reported as unclosed exactly at top level. -/
theorem unclosed?_eq_none_iff
    (depth : Depth) :
    depth.unclosed? = none ↔ depth.isTop = true := by
  simp [unclosed?, isTop]

end Depth

/-- The mark of a character behind `front`, if it is a bracket or a
separator. -/
def markAt?
    (front : List Char)
    (character : Char) :
    Option Mark :=
  if (Family.ofCloser? character).isSome then
    some ⟨byteSize front, character, Depth.behind (front ++ [character])⟩
  else if (Family.ofOpener? character).isSome ∨ isSeparator character then
    some ⟨byteSize front, character, Depth.behind front⟩
  else
    none

/-- The marks of a text that stands behind `front`. -/
def marksBehind
    (front : List Char) :
    List Char →
      List Mark
  | [] =>
      []
  | character :: rest =>
      (markAt? front character).toList ++
        marksBehind (front ++ [character]) rest

/-- A text with all its marks. -/
def marked
    (text : List Char) :
    Scan :=
  ⟨text, marksBehind [] text⟩

@[simp] theorem text_marked
    (text : List Char) :
    (marked text).text = text :=
  rfl

section Marking

variable {front : List Char}

@[simp] theorem markAt?_opener
    (family : Family) :
    markAt? front family.opener =
      some ⟨byteSize front, family.opener, Depth.behind front⟩ := by
  simp [markAt?]

@[simp] theorem markAt?_closer
    (family : Family) :
    markAt? front family.closer =
      some ⟨byteSize front, family.closer,
        Depth.behind (front ++ [family.closer])⟩ := by
  simp [markAt?]

/-- A character that is no bracket is marked if it is a separator. -/
theorem markAt?_other
    {character : Char}
    (opensNothing : Family.ofOpener? character = none)
    (closesNothing : Family.ofCloser? character = none) :
    markAt? front character =
      if isSeparator character then
        some ⟨byteSize front, character, Depth.behind front⟩
      else
        none := by
  simp [markAt?, opensNothing, closesNothing]

/-- A mark tells its character and where it stands. -/
theorem eq_of_markAt?
    {character : Char}
    {mark : Mark}
    (isMark : markAt? front character = some mark) :
    mark.offset = byteSize front ∧ mark.character = character := by
  unfold markAt? at isMark
  split at isMark
  · cases isMark
    exact ⟨rfl, rfl⟩
  · split at isMark
    · cases isMark
      exact ⟨rfl, rfl⟩
    · contradiction

end Marking

/-- Every character opens a family, closes one, or does neither. -/
theorem Family.opener_or_closer_or_neither
    (character : Char) :
    (∃ family : Family, character = family.opener) ∨
      (∃ family : Family, character = family.closer) ∨
        Family.ofOpener? character = none ∧
          Family.ofCloser? character = none := by
  cases opens : Family.ofOpener? character with
  | some family =>
      exact .inl ⟨family, Family.eq_opener_of_ofOpener? opens⟩
  | none =>
      cases closes : Family.ofCloser? character with
      | some family =>
          exact .inr (.inl ⟨family, Family.eq_closer_of_ofCloser? closes⟩)
      | none =>
          exact .inr (.inr ⟨rfl, rfl⟩)

/-- Prepending to the marks of a scan succeeds where the scan does. -/
private theorem map_cons_eq_ok_iff
    {mark : Mark}
    {result : Except Error (List Mark)}
    {marks : List Mark} :
    result.map (mark :: ·) = .ok marks ↔
      ∃ later, result = .ok later ∧ marks = mark :: later := by
  cases result with
  | error error =>
      simp [Except.map]
  | ok later =>
      simp [Except.map, eq_comm]

/-- The rest of a text is scanned successfully exactly if it completes what
stands before it to a balanced text. -/
theorem marksFrom_eq_ok_iff
    {front rest : List Char}
    {marks : List Mark}
    (covered : ∀ family, Covered family front) :
    marksFrom (byteSize front) (Depth.behind front) rest = .ok marks ↔
      Balanced (front ++ rest) ∧ marks = marksBehind front rest := by
  induction rest generalizing front marks with
  | nil =>
      have closedIff :
          Balanced (front ++ []) ↔
            (Depth.behind front).unclosed? = none := by
        rw [List.append_nil, Depth.unclosed?_eq_none_iff,
          Depth.isTop_behind_iff covered]
        exact ⟨fun balanced family => (balanced family).level,
          fun level family => ⟨covered family, level family⟩⟩
      rw [closedIff]
      cases unclosed : (Depth.behind front).unclosed? with
      | none =>
          simp [marksFrom, unclosed, marksBehind, eq_comm]
      | some error =>
          simp [marksFrom, unclosed]
  | cons character rest inductionHypothesis =>
      have split :
          front ++ character :: rest = front ++ [character] ++ rest := by
        simp
      have size :
          byteSize front + character.utf8Size =
            byteSize (front ++ [character]) := by
        simp
      simp only [marksFrom, marksBehind, size]
      rw [split]
      rcases Family.opener_or_closer_or_neither character with
          ⟨family, rfl⟩ | ⟨family, rfl⟩ | ⟨opensNothing, closesNothing⟩
      · have coveredNext :
            ∀ other, Covered other (front ++ [family.opener]) :=
          fun other => (covered other).append_opener family
        simp only [Family.ofOpener?_opener, markAt?_opener,
          ← Depth.behind_append_opener (covered family),
          map_cons_eq_ok_iff, inductionHypothesis coveredNext,
          Option.toList_some, List.singleton_append, and_assoc,
          exists_and_left, exists_eq_left]
      · simp only [Family.ofOpener?_closer, Family.ofCloser?_closer,
          markAt?_closer, ← Depth.behind_append_closer,
          Depth.get_behind, Option.toList_some, List.singleton_append]
        split
        · next noneOpen =>
            have tooMany :
                ¬ Balanced (front ++ [family.closer] ++ rest) := by
              intro balanced
              have within :=
                (balanced family).covered.of_append.closers_le
              simp at within
              omega
            simp only [tooMany, false_and, reduceCtorEq]
        · next someOpen =>
            have coveredNext :
                ∀ other, Covered other (front ++ [family.closer]) :=
              fun other => (covered other).append_closer (by omega)
            simp only [map_cons_eq_ok_iff,
              inductionHypothesis coveredNext, and_assoc,
              exists_and_left, exists_eq_left]
      · have coveredNext :
            ∀ other, Covered other (front ++ [character]) :=
          fun other =>
            (covered other).append_other opensNothing closesNothing
        simp only [opensNothing, closesNothing,
          markAt?_other opensNothing closesNothing,
          ← Depth.behind_append_other opensNothing closesNothing front]
        split
        · simp only [map_cons_eq_ok_iff,
            inductionHypothesis coveredNext, and_assoc,
            exists_and_left, exists_eq_left, Option.toList_some,
            List.singleton_append]
        · rw [inductionHypothesis coveredNext]
          simp

/-- A scan succeeds exactly on the balanced texts, and records all marks. -/
theorem scan_eq_ok_iff
    {text : List Char}
    {scanned : Scan} :
    scan text = .ok scanned ↔ Balanced text ∧ scanned = marked text := by
  have fromStart
      (marks : List Mark) :
      marksFrom 0 {} text = .ok marks ↔
        Balanced text ∧ marks = marksBehind [] text := by
    simpa using
      @marksFrom_eq_ok_iff [] text marks fun _ => .nil
  cases result : marksFrom 0 {} text with
  | error error =>
      have unbalanced : ¬ Balanced text := by
        intro balanced
        have succeeds := (fromStart _).mpr ⟨balanced, rfl⟩
        simp [result] at succeeds
      simp [scan, result, Except.map, unbalanced]
  | ok marks =>
      obtain ⟨balanced, rfl⟩ := (fromStart marks).mp result
      simp [scan, result, Except.map, balanced, marked, eq_comm]

/-- The marks of a text are the marks of its parts. -/
@[simp] theorem marksBehind_append
    (front left right : List Char) :
    marksBehind front (left ++ right) =
      marksBehind front left ++ marksBehind (front ++ left) right := by
  induction left generalizing front with
  | nil =>
      simp [marksBehind]
  | cons character rest inductionHypothesis =>
      simp [marksBehind, inductionHypothesis]

/-- Every mark stands at a character of the text. -/
theorem mem_marksBehind_iff
    {front text : List Char}
    {mark : Mark} :
    mark ∈ marksBehind front text ↔
      ∃ before character after,
        text = before ++ character :: after ∧
          markAt? (front ++ before) character = some mark := by
  induction text generalizing front with
  | nil =>
      simp [marksBehind]
  | cons first rest inductionHypothesis =>
      simp only [marksBehind, List.mem_append, Option.mem_toList,
        inductionHypothesis]
      constructor
      · rintro (isFirst | ⟨before, character, after, rfl, isMark⟩)
        · exact ⟨[], first, rest, rfl, by simpa using isFirst⟩
        · exact ⟨first :: before, character, after, rfl,
            by simpa using isMark⟩
      · rintro ⟨before, character, after, shape, isMark⟩
        cases before with
        | nil =>
            obtain ⟨rfl, rfl⟩ := List.cons.inj shape
            exact .inl (by simpa using isMark)
        | cons head before =>
            obtain ⟨rfl, rfl⟩ := List.cons.inj shape
            exact .inr ⟨before, character, after, rfl,
              by simpa using isMark⟩

/-- The marks of a text lie between its two ends. -/
theorem offset_of_mem_marksBehind
    {front text : List Char}
    {mark : Mark}
    (member : mark ∈ marksBehind front text) :
    byteSize front ≤ mark.offset ∧
      mark.offset < byteSize (front ++ text) := by
  obtain ⟨before, character, after, rfl, isMark⟩ :=
    mem_marksBehind_iff.mp member
  have positive := character.utf8Size_pos
  rw [(eq_of_markAt? isMark).1]
  simp only [byteSize_append, byteSize_cons]
  omega

/-- No more brackets of a family are open behind a text than it has bytes. -/
theorem Depth.get_behind_le_byteSize
    (text : List Char)
    (family : Family) :
    (behind text).get family ≤ byteSize text := by
  have opened : openers family text ≤ text.length :=
    List.count_le_length
  have sized := length_le_byteSize text
  rw [get_behind]
  omega

/-- The counts at the marks of a text are no greater than the size of the
text, so they need no more bits than its offsets. -/
theorem get_depth_le_byteSize_of_mem_marksBehind
    {text : List Char}
    {mark : Mark}
    (member : mark ∈ marksBehind [] text)
    (family : Family) :
    mark.depth.get family ≤ byteSize text := by
  obtain ⟨before, character, after, rfl, isMark⟩ :=
    mem_marksBehind_iff.mp member
  have outside := Depth.get_behind_le_byteSize before family
  have behindCharacter :=
    Depth.get_behind_le_byteSize (before ++ [character]) family
  simp only [byteSize_append, byteSize_cons, byteSize_nil]
    at behindCharacter ⊢
  unfold markAt? at isMark
  split at isMark
  · cases isMark
    exact Nat.le_trans behindCharacter (by omega)
  · split at isMark
    · cases isMark
      exact Nat.le_trans outside (by omega)
    · contradiction

/-- The index of an offset divides the marks into those before the offset and
the others. -/
theorem Scan.markIndex_eq_length
    {scanned : Scan}
    {offset : Nat}
    {earlier later : List Mark}
    (shape : scanned.marks = earlier ++ later)
    (before : ∀ mark ∈ earlier, mark.offset < offset)
    (behind : ∀ mark ∈ later, offset ≤ mark.offset) :
    scanned.markIndex offset = earlier.length := by
  have noneEarlier :
      earlier.findIdx (fun mark => decide (offset ≤ mark.offset)) =
        earlier.length := by
    apply List.findIdx_eq_length.mpr
    intro mark member
    simpa using before mark member
  have atFirst :
      later.findIdx (fun mark => decide (offset ≤ mark.offset)) = 0 := by
    cases later with
    | nil =>
        rfl
    | cons mark rest =>
        simp [List.findIdx_cons, behind mark (by simp)]
  rw [Scan.markIndex, shape, List.findIdx_append, noneEarlier, atFirst,
    if_neg (Nat.lt_irrefl _), Nat.zero_add]

/-- The marks inside a span are the marks of what the span covers. -/
theorem marksIn_marked
    (front middle back : List Char) :
    (marked (front ++ middle ++ back)).marksIn
        ⟨byteSize front, byteSize (front ++ middle)⟩ =
      marksBehind front middle := by
  have shape :
      (marked (front ++ middle ++ back)).marks =
        marksBehind [] front ++ marksBehind front middle ++
          marksBehind (front ++ middle) back := by
    simp [marked]
  have inFront :
      ∀ mark ∈ marksBehind [] front, mark.offset < byteSize front := by
    intro mark member
    simpa using (offset_of_mem_marksBehind member).2
  have inMiddle :
      ∀ mark ∈ marksBehind front middle,
        byteSize front ≤ mark.offset ∧
          mark.offset < byteSize (front ++ middle) :=
    fun _ member => offset_of_mem_marksBehind member
  have inBack :
      ∀ mark ∈ marksBehind (front ++ middle) back,
        byteSize (front ++ middle) ≤ mark.offset :=
    fun _ member => (offset_of_mem_marksBehind member).1
  have start :
      (marked (front ++ middle ++ back)).markIndex (byteSize front) =
        (marksBehind [] front).length := by
    apply Scan.markIndex_eq_length (shape.trans (List.append_assoc _ _ _))
      inFront
    intro mark member
    rcases List.mem_append.mp member with isMiddle | isBack
    · exact (inMiddle mark isMiddle).1
    · have behind := inBack mark isBack
      rw [byteSize_append] at behind
      omega
  have stop :
      (marked (front ++ middle ++ back)).markIndex
          (byteSize (front ++ middle)) =
        (marksBehind [] front ++ marksBehind front middle).length := by
    apply Scan.markIndex_eq_length shape _ inBack
    intro mark member
    rcases List.mem_append.mp member with isFront | isMiddle
    · have before := inFront mark isFront
      rw [byteSize_append]
      omega
    · exact (inMiddle mark isMiddle).2
  rw [Scan.marksIn, start, stop, shape, List.take_left,
    List.drop_left]

@[simp] theorem whole_marked
    (text : List Char) :
    (marked text).whole = ⟨0, byteSize text⟩ :=
  rfl

/-- The marks up to an offset are the marks of the text before it. -/
theorem marksIn_marked_front
    (text back : List Char) :
    (marked (text ++ back)).marksIn ⟨0, byteSize text⟩ =
      marksBehind [] text := by
  simpa using marksIn_marked [] text back

end ApiIndex.Bracket

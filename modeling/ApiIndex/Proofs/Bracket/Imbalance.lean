import ApiIndex.Proofs.Bracket.Marks

namespace ApiIndex.Bracket

open ApiIndex.Text

/-!
# Why a scan fails

A scan fails for one of two reasons, and both are described by the text alone.
At the first closer that has no opener, the part of the text before it closes
no more than it opens in any family and exactly as much in the family of the
closer.  Without such a closer it fails at the end, on the first family that is
still open.
-/

/-- Why the brackets of a text do not balance. -/
inductive Imbalance
    (text : List Char) :
    Error → Prop where
  /-- A closer stands where no bracket of its family is open. -/
  | closer
      {front back : List Char}
      {family : Family}
      (shape : text = front ++ family.closer :: back)
      (covered : ∀ other, Covered other front)
      (level : openers family front = closers family front) :
      Imbalance text (.unexpectedCloser family (byteSize front))
  /-- The text ends while a family is open. -/
  | unclosed
      {error : Error}
      (covered : ∀ other, Covered other text)
      (isOpen : (Depth.behind text).unclosed? = some error) :
      Imbalance text error

/-- What is unclosed is never reported as a closer. -/
theorem Depth.unclosed?_ne_unexpectedCloser
    (depth : Depth)
    (family : Family)
    (offset : Nat) :
    depth.unclosed? ≠ some (.unexpectedCloser family offset) := by
  simp [unclosed?]

/-- Prepending to the marks of a scan fails where the scan does. -/
private theorem map_cons_eq_error_iff
    {mark : Mark}
    {result : Except Error (List Mark)}
    {error : Error} :
    result.map (mark :: ·) = .error error ↔ result = .error error := by
  cases result with
  | error failure =>
      simp [Except.map]
  | ok later =>
      simp [Except.map]

/-- A scan that fails in the rest of a text fails for an imbalance of the whole
text. -/
private theorem imbalance_of_marksFrom
    {front rest : List Char}
    {error : Error}
    (covered : ∀ family, Covered family front)
    (failed :
      marksFrom (byteSize front) (Depth.behind front) rest =
        .error error) :
    Imbalance (front ++ rest) error := by
  -- What has been read stays covered until a closer stands where nothing of its
  -- family is open.
  induction rest generalizing front with
  | nil =>
      rw [List.append_nil]
      cases isOpen : (Depth.behind front).unclosed? with
      | none =>
          simp [marksFrom, isOpen] at failed
      | some unclosed =>
          simp only [marksFrom, isOpen, Except.error.injEq] at failed
          exact .unclosed covered (failed ▸ isOpen)
  | cons character rest inductionHypothesis =>
      have split :
          front ++ character :: rest = front ++ [character] ++ rest := by
        simp
      have size :
          byteSize front + character.utf8Size =
            byteSize (front ++ [character]) := by
        simp
      simp only [marksFrom, size] at failed
      rcases Family.opener_or_closer_or_neither character with
          ⟨family, rfl⟩ | ⟨family, rfl⟩ | ⟨opensNothing, closesNothing⟩
      · simp only [Family.ofOpener?_opener,
          ← Depth.behind_append_opener (covered family),
          map_cons_eq_error_iff] at failed
        rw [split]
        exact inductionHypothesis
          (fun other => (covered other).append_opener family) failed
      · simp only [Family.ofOpener?_closer, Family.ofCloser?_closer,
          ← Depth.behind_append_closer, Depth.get_behind] at failed
        have enough := (covered family).closers_le
        split at failed
        · next noneOpen =>
            cases failed
            exact .closer rfl covered (by omega)
        · next someOpen =>
            rw [map_cons_eq_error_iff] at failed
            rw [split]
            exact inductionHypothesis
              (fun other => (covered other).append_closer (by omega))
              failed
      · have coveredNext :
            ∀ other, Covered other (front ++ [character]) :=
          fun other =>
            (covered other).append_other opensNothing closesNothing
        simp only [opensNothing, closesNothing,
          ← Depth.behind_append_other opensNothing closesNothing
            front] at failed
        rw [split]
        split at failed
        · rw [map_cons_eq_error_iff] at failed
          exact inductionHypothesis coveredNext failed
        · exact inductionHypothesis coveredNext failed

/-- A scan fails for an imbalance of the text. -/
theorem imbalance_of_scan
    {text : List Char}
    {error : Error}
    (failed : scan text = .error error) :
    Imbalance text error := by
  have fromStart : marksFrom 0 {} text = .error error := by
    cases result : marksFrom 0 {} text with
    | error failure =>
        simpa [scan, result, Except.map] using failed
    | ok marks =>
        simp [scan, result, Except.map] at failed
  simpa using
    @imbalance_of_marksFrom [] text error (fun _ => .nil) fromStart

/-- A text whose parts from the start on never close more than they open is
only ever rejected for what it leaves open. -/
theorem scan_ne_unexpectedCloser
    {text : List Char}
    (covered : ∀ family, Covered family text)
    (family : Family)
    (offset : Nat) :
    scan text ≠ .error (.unexpectedCloser family offset) := by
  intro failed
  cases imbalance_of_scan failed with
  | @closer front back _ shape frontCovered level =>
      -- The part that ends with the closer closes one more than it opens.
      have enough :=
        covered family (front ++ [family.closer]) ⟨back, by simp [shape]⟩
      simp only [openers_append, closers_append, openers_cons_closer,
        closers_cons_closer, openers_nil, closers_nil,
        ↓reduceIte] at enough
      omega
  | unclosed _ isOpen =>
      exact Depth.unclosed?_ne_unexpectedCloser _ _ _ isOpen

end ApiIndex.Bracket

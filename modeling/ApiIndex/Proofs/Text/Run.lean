import Mathlib.Data.List.TakeWhile

namespace ApiIndex.Text

/-!
# Runs of accepted characters

A run is the longest part from the start of a text on of which every character
is accepted.  It ends with the text or before the first character that is not
accepted, and is determined by that.
-/

section Runs

variable {accept : Char → Bool} {run other rest more text : List Char}

/-- A run of accepted characters ends where the first other one stands. -/
theorem takeWhile_dropWhile_run
    (accepted : ∀ character ∈ run, accept character = true)
    (stops :
      ∀ first, rest.head? = some first → accept first = false) :
    (run ++ rest).takeWhile accept = run ∧
      (run ++ rest).dropWhile accept = rest := by
  rw [List.takeWhile_append_of_pos accepted,
    List.dropWhile_append_of_pos accepted]
  cases rest with
  | nil =>
      simp
  | cons first rest =>
      simp [stops first rfl]

theorem stops_dropWhile
    (accept : Char → Bool)
    (text : List Char) :
    ∀ first, (text.dropWhile accept).head? = some first →
      accept first = false := by
  intro first isFirst
  have stopped := List.head?_dropWhile_not accept text
  rw [isFirst] at stopped
  exact stopped

/-- A text has one division into a run and what stops it. -/
theorem run_append_inj
    (accepted : ∀ character ∈ run, accept character = true)
    (otherAccepted : ∀ character ∈ other, accept character = true)
    (stops :
      ∀ first, rest.head? = some first → accept first = false)
    (otherStops :
      ∀ first, more.head? = some first → accept first = false)
    (same : run ++ rest = other ++ more) :
    run = other ∧ rest = more := by
  have cut := takeWhile_dropWhile_run accepted stops
  have otherCut := takeWhile_dropWhile_run otherAccepted otherStops
  rw [same] at cut
  exact ⟨cut.1.symm.trans otherCut.1, cut.2.symm.trans otherCut.2⟩

end Runs

end ApiIndex.Text

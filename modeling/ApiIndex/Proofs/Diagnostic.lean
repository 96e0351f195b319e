import ApiIndex.Diagnostic

namespace ApiIndex

/-!
# What messages start with

A diagnostic carries no more of its problem than the severity and the wording.
The three problems start their messages with different words, so a message tells
whether it reports a duplicate, whatever it quotes.
-/

/-- What a text starts with, it starts with however it is continued. -/
theorem prefix_toList_append
    {opening front : String}
    (starts : opening.toList <+: front.toList)
    (rest : String) :
    opening.toList <+: (front ++ rest).toList := by
  rw [String.toList_append]
  exact starts.trans (List.prefix_append _ _)

/-- The words that the messages of a problem start with. -/
def Problem.opening : Problem → String
  | .unknownKind _ =>
      "Unknown directive kind \""
  | .rejected _ =>
      "Parsing signature failed: \""
  | .duplicate _ =>
      "Duplicate reference target: "

theorem Problem.opening_prefix
    (problem : Problem) :
    problem.opening.toList <+: problem.message.toList := by
  cases problem with
  | unknownKind name =>
      exact prefix_toList_append
        (prefix_toList_append (List.prefix_refl _) name) _
  | rejected rejection =>
      exact prefix_toList_append
        (prefix_toList_append (List.prefix_refl _) rejection.raw) _
  | duplicate repeated =>
      -- Regrouping the parts instead would unfold the written ones.
      exact prefix_toList_append
        (prefix_toList_append
          (prefix_toList_append
            (prefix_toList_append (List.prefix_refl _) repeated.key.display)
            _)
          repeated.existing.display)
        _

/-- Whether a diagnostic reports a duplicate, as its message says. -/
def Diagnostic.IsDuplicate
    (diagnostic : Diagnostic) :
    Prop :=
  "Duplicate reference target: ".toList <+: diagnostic.message.toList

instance : DecidablePred Diagnostic.IsDuplicate :=
  fun diagnostic =>
    inferInstanceAs
      (Decidable
        ("Duplicate reference target: ".toList <+:
          diagnostic.message.toList))

/-- No message starts like that of another problem. -/
theorem Diagnostic.isDuplicate_ofProblem_iff
    {document : String}
    {line : Nat}
    {problem : Problem} :
    (ofProblem document line problem).IsDuplicate ↔
      ∃ repeated, problem = .duplicate repeated := by
  have starts := problem.opening_prefix
  constructor
  · intro isDuplicate
    have openings := List.prefix_or_prefix_of_prefix starts isDuplicate
    cases problem with
    | unknownKind name =>
        simp only [Problem.opening] at openings
        exact absurd openings (by decide +kernel)
    | rejected rejection =>
        simp only [Problem.opening] at openings
        exact absurd openings (by decide +kernel)
    | duplicate repeated =>
        exact ⟨repeated, rfl⟩
  · rintro ⟨repeated, rfl⟩
    exact starts

end ApiIndex

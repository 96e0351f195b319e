import ApiIndex.Proofs.Document.Coherence
import ApiIndex.Proofs.Forest.Ancestry

namespace ApiIndex.Document

open ApiIndex.Reference (Entry Registry)

/-!
# Documents with one more directive

A directive that is appended to a document ends some scopes earlier than the end
of the document would, and opens one scope more.  The claims of the scopes that
end are registered before the new one either way, and those of the scopes
around it behind it.  The verdicts on the earlier directives therefore stay as
they are: the new directive adds a diagnostic or a registered key and takes
nothing back.
-/

namespace Builder

variable {builder : Builder}

/-- Ending scopes from an indentation on ends the innermost ones. -/
theorem Coherent.exists_closeFrom
    (coherent : builder.Coherent)
    (indent : Nat) :
    ∃ ended remaining,
      builder.scopes = ended ++ remaining ∧
        builder.closeFrom indent = builder.afterClosing ended remaining :=
  ⟨_, _, List.takeWhile_append_dropWhile.symm, coherent.closeFrom_eq indent⟩

/-- Ending the innermost scopes ends their declarations and keeps the links
between all declarations. -/
theorem Coherent.linked_afterClosing
    {ended remaining : List Scope}
    (coherent : builder.Coherent)
    (linked : builder.forest.Linked)
    (shape : builder.scopes = ended ++ remaining) :
    (builder.afterClosing ended remaining).forest.Linked := by
  apply linked.of_scope_subset
  rw [coherent.nodes, shape]
  intro id isOpen
  rw [nodesOf, List.filterMap_append]
  exact List.mem_append_right _ isOpen

theorem Coherent.linked_push
    (coherent : builder.Coherent)
    (linked : builder.forest.Linked)
    (directive : Directive) :
    (builder.push directive).forest.Linked := by
  obtain ⟨ended, remaining, shape, closed⟩ :=
    coherent.exists_closeFrom directive.indent
  have closedLinked := coherent.linked_afterClosing linked shape
  rw [← closed] at closedLinked
  cases resolved : directive.resolve with
  | error problem =>
      rw [push_of_error resolved]
      exact closedLinked
  | ok declaration =>
      rw [push_of_ok resolved, accept_forest]
      exact closedLinked.openNode declaration.1 declaration.2

/-- How a document follows from an earlier state of it by one directive: some
scopes have ended, and the scope of the directive has been opened with a claim
or with a report. -/
structure Adds
    (pushed builder : Builder)
    (ended remaining : List Scope)
    (scope : Scope) : Prop where
  shape : builder.scopes = ended ++ remaining
  scopes : pushed.scopes = scope :: remaining
  registry :
    pushed.registry.entries = builder.registry.entries ++ claimsOf ended
  forest : pushed.forest.Extends builder.forest
  verdict :
    (∃ claim,
      scope.claim = some claim ∧
        pushed.diagnostics = builder.diagnostics) ∨
    (∃ diagnostic,
      scope.claim = none ∧
        pushed.diagnostics = builder.diagnostics ++ [diagnostic])

theorem Coherent.exists_adds_push
    (coherent : builder.Coherent)
    (directive : Directive) :
    ∃ ended remaining scope,
      Adds (builder.push directive) builder ended remaining scope := by
  obtain ⟨ended, remaining, shape, closed⟩ :=
    coherent.exists_closeFrom directive.indent
  have sameNodes :
      (builder.afterClosing ended remaining).forest.Extends
        builder.forest :=
    .of_nodes_eq rfl rfl
  cases resolved : directive.resolve with
  | error problem =>
      rw [push_of_error resolved, closed]
      exact ⟨ended, remaining, _, shape, rfl, rfl, sameNodes,
        .inr ⟨_, rfl, rfl⟩⟩
  | ok declaration =>
      obtain ⟨kind, signature⟩ := declaration
      rw [push_of_ok resolved, closed]
      obtain ⟨name, named⟩ :=
        (builder.afterClosing ended
          remaining).forest.exists_qualifiedName?_openNode kind signature
      have opened :=
        (Forest.Extends.openNode _ kind signature).trans sameNodes
      cases found :
          (builder.afterClosing ended remaining).claimed.find?
            ⟨kind, name⟩ with
      | none =>
          rw [accept_of_absent named (Registry.find?_eq_none_iff.mp found)]
          exact ⟨ended, remaining, _, shape, rfl, rfl, opened,
            .inl ⟨_, rfl, rfl⟩⟩
      | some existing =>
          rw [accept_of_taken named found]
          exact ⟨ended, remaining, _, shape, rfl, rfl, opened,
            .inr ⟨_, rfl, rfl⟩⟩

end Builder

namespace Outcome

/-- Whether an outcome keeps all that another one says. -/
structure Keeps
    (later earlier : Outcome) : Prop where
  diagnostics :
    earlier.diagnostics <+: later.diagnostics
  entries :
    earlier.registry.entries.Sublist later.registry.entries
  forest :
    later.forest.Extends earlier.forest
  names :
    ∀ id node,
      earlier.forest.node? id = some node →
        later.forest.qualifiedName? id = earlier.forest.qualifiedName? id

theorem Keeps.refl
    (outcome : Outcome) :
    outcome.Keeps outcome where
  diagnostics := List.prefix_refl _
  entries := List.Sublist.refl _
  forest := .of_nodes_eq rfl rfl
  names := fun _ _ _ => rfl

theorem Keeps.trans
    {last later earlier : Outcome}
    (keepsLater : last.Keeps later)
    (keeps : later.Keeps earlier) :
    last.Keeps earlier where
  diagnostics := keeps.diagnostics.trans keepsLater.diagnostics
  entries := keeps.entries.trans keepsLater.entries
  forest := keepsLater.forest.trans keeps.forest
  names := by
    intro id node found
    obtain ⟨_, foundLater⟩ := keeps.forest.nodes id node found
    exact (keepsLater.names id _ foundLater).trans
      (keeps.names id node found)

/-- Whether an outcome has exactly one diagnostic or exactly one registered key
more than another one. -/
def AddsOne
    (later earlier : Outcome) :
    Prop :=
  (∃ diagnostic,
    later.diagnostics = earlier.diagnostics ++ [diagnostic] ∧
      later.registry = earlier.registry) ∨
  (∃ before entry behind,
    later.diagnostics = earlier.diagnostics ∧
      earlier.registry.entries = before ++ behind ∧
        later.registry.entries = before ++ entry :: behind)

end Outcome

namespace Builder

variable {builder : Builder}

/-- Finishing after one more directive keeps what finishing before it says and
adds one diagnostic or one key. -/
theorem Coherent.finish_push
    (coherent : builder.Coherent)
    (linked : builder.forest.Linked)
    (directive : Directive) :
    (builder.push directive).finish.Keeps builder.finish ∧
      (builder.push directive).finish.AddsOne builder.finish := by
  obtain ⟨ended, remaining, scope, adds⟩ :=
    coherent.exists_adds_push directive
  have grows := adds.forest.with_scope [] []
  have closedLinked :
      Forest.Linked { builder.forest with scope := [] } :=
    linked.of_scope_subset (List.nil_subset _)
  -- The claims of the scopes that end now are registered first in both runs.
  have before :
      builder.registry.entries ++ claimsOf builder.scopes =
        builder.registry.entries ++ claimsOf ended ++
          claimsOf remaining := by
    rw [adds.shape, claimsOf_append, List.append_assoc]
  have after :
      (builder.push directive).registry.entries ++
          claimsOf (builder.push directive).scopes =
        builder.registry.entries ++ claimsOf ended ++
          (scope.claim.toList ++ claimsOf remaining) := by
    rw [adds.registry, adds.scopes, claimsOf_cons]
  rw [coherent.finish_eq, (coherent.push directive).finish_eq, before,
    after]
  refine ⟨⟨?_, ?_, grows, fun _ _ found =>
    closedLinked.qualifiedName?_eq_of_extends grows found⟩, ?_⟩
  · rcases adds.verdict with
        ⟨claim, -, diagnostics⟩ | ⟨diagnostic, -, diagnostics⟩
    · exact diagnostics ▸ List.prefix_refl _
    · exact diagnostics ▸ List.prefix_append _ _
  · exact (List.sublist_append_right _ _).append_left _
  · rcases adds.verdict with
        ⟨claim, isClaim, diagnostics⟩ | ⟨diagnostic, noClaim, diagnostics⟩
    · exact .inr ⟨_, claim, _, diagnostics, rfl, by simp [isClaim]⟩
    · exact .inl ⟨diagnostic, diagnostics, by simp [noClaim]⟩

/-- Behind any directives a document is coherent and its declarations are
linked. -/
theorem coherent_and_linked_foldl
    (name : String)
    (rule : NestingRule)
    (directives : List Directive) :
    let builder := directives.foldl push (start name rule)
    builder.Coherent ∧ builder.forest.Linked := by
  refine List.foldlRecOn
    (motive := fun builder => builder.Coherent ∧ builder.forest.Linked)
    directives push ⟨.start name rule, .empty rule⟩ ?_
  rintro builder ⟨coherent, linked⟩ directive -
  exact ⟨coherent.push directive, coherent.linked_push linked directive⟩

end Builder

section Directives

variable (name : String) (rule : NestingRule) (directives : List Directive)

theorem linked_ofDirectives :
    (ofDirectives name rule directives).forest.Linked := by
  obtain ⟨coherent, linked⟩ :=
    Builder.coherent_and_linked_foldl name rule directives
  rw [ofDirectives, coherent.finish_eq]
  exact linked.of_scope_subset (List.nil_subset _)

theorem ofDirectives_append_singleton
    (directive : Directive) :
    ofDirectives name rule (directives ++ [directive]) =
      ((directives.foldl Builder.push (.start name rule)).push
        directive).finish := by
  rw [ofDirectives, List.foldl_append]
  rfl

/-- One more directive at the end of a document adds one diagnostic or one
registered key, and all that was said without it stays. -/
theorem ofDirectives_keeps_and_adds_one
    (directive : Directive) :
    let before := ofDirectives name rule directives
    let after := ofDirectives name rule (directives ++ [directive])
    after.Keeps before ∧ after.AddsOne before := by
  obtain ⟨coherent, linked⟩ :=
    Builder.coherent_and_linked_foldl name rule directives
  simp only [ofDirectives_append_singleton]
  exact coherent.finish_push linked directive

/-- However many directives follow, they keep what was said without them. -/
theorem ofDirectives_append_keeps
    (more : List Directive) :
    (ofDirectives name rule (directives ++ more)).Keeps
      (ofDirectives name rule directives) := by
  induction more generalizing directives with
  | nil =>
      rw [List.append_nil]
      exact .refl _
  | cons directive more inductionHypothesis =>
      obtain ⟨coherent, linked⟩ :=
        Builder.coherent_and_linked_foldl name rule directives
      have later := inductionHypothesis (directives ++ [directive])
      rw [List.append_assoc, List.singleton_append] at later
      apply later.trans
      rw [ofDirectives_append_singleton]
      exact (coherent.finish_push linked directive).1

end Directives

end ApiIndex.Document

import ApiIndex.Proofs.Document.Outline
import ApiIndex.Proofs.Document.Replay

namespace ApiIndex.Document

open Reference (Key Registry)

/-!
# Finished documents

What a document contributes to a build: a registry of distinct keys and a list
of diagnostics, which together account for every directive.  The directives of
a text stand on increasing lines, and the diagnostics follow them.
-/

section Finished

variable {name : String} {rule : NestingRule} {directives : List Directive}

/-- The document behind all its directives, with scopes that are still open. -/
private theorem replays_foldl :
    Builder.Replays name rule directives.reverse
      (directives.foldl Builder.push (Builder.start name rule)) := by
  simpa using (Builder.Replays.start name rule).foldl directives

theorem name_ofDirectives :
    (ofDirectives name rule directives).name = name := by
  have replays := @replays_foldl name rule directives
  rw [ofDirectives, replays.follows.coherent.finish_eq]
  exact replays.follows.name

theorem rule_ofDirectives :
    (ofDirectives name rule directives).forest.rule = rule := by
  have replays := @replays_foldl name rule directives
  rw [ofDirectives, replays.follows.coherent.finish_eq]
  exact replays.follows.rule

/-- No key is registered twice. -/
theorem nodup_keys_ofDirectives :
    (ofDirectives name rule directives).registry.keys.Nodup := by
  have coherent :=
    (@replays_foldl name rule directives).follows.coherent
  rw [ofDirectives, coherent.finish_eq]
  exact coherent.unique

/-- The diagnostics are the reports of the places, in order. -/
theorem diagnostics_ofDirectives :
    (ofDirectives name rule directives).diagnostics =
      (places directives).filterMap (Place.report? name rule) := by
  have replays := @replays_foldl name rule directives
  rw [ofDirectives, replays.follows.coherent.finish_eq]
  simpa using replays.diagnostics

/-- A registered key leads to the first directive that has it. -/
theorem find?_ofDirectives
    (key : Key) :
    (ofDirectives name rule directives).registry.find? key =
      firstTarget? name rule directives key := by
  have replays := @replays_foldl name rule directives
  have coherent := replays.follows.coherent
  have unique := @nodup_keys_ofDirectives name rule directives
  rw [ofDirectives, coherent.finish_eq] at unique ⊢
  rw [Registry.find?_eq_of_perm unique coherent.claims.symm,
    replays.claimed, List.reverse_reverse]

/-- Every directive is registered or reported. -/
theorem accounted_ofDirectives :
    (ofDirectives name rule directives).registry.size +
        (ofDirectives name rule directives).diagnostics.length =
      directives.length := by
  have replays := @replays_foldl name rule directives
  have coherent := replays.follows.coherent
  have accounted := replays.accounted
  rw [Registry.size, coherent.claims.length_eq,
    List.length_reverse] at accounted
  rw [ofDirectives, coherent.finish_eq]
  exact accounted

end Finished

section Lines

/-- The places of a document are those of its directives. -/
theorem map_directive_placesBehind
    (earlier directives : List Directive) :
    (placesBehind earlier directives).map Place.directive =
      directives := by
  induction directives generalizing earlier with
  | nil =>
      rfl
  | cons directive directives inductionHypothesis =>
      simp [placesBehind, inductionHypothesis]

/-- A report carries the line of its directive. -/
theorem line_of_report?
    {name : String}
    {rule : NestingRule}
    {place : Place}
    {diagnostic : Diagnostic}
    (reported : place.report? name rule = some diagnostic) :
    diagnostic.line = place.directive.line := by
  simp only [Place.report?] at reported
  split at reported
  · obtain ⟨first, -, rfl⟩ := Option.map_eq_some_iff.mp reported
    rfl
  · split at reported <;> cases reported <;> rfl

/-- The diagnostics of a text stand on increasing lines. -/
theorem diagnostics_build_ordered
    (config : Config)
    (name text : String) :
    (build config name text).diagnostics.Pairwise fun first second =>
      first.line < second.line := by
  have ordered := outline_ordered config.domain text
  rw [← map_directive_placesBehind [] (outline config.domain text),
    List.pairwise_map] at ordered
  rw [build, diagnostics_ofDirectives, List.pairwise_filterMap]
  apply ordered.imp
  intro place later inOrder first isFirst second isSecond
  rw [line_of_report? isFirst, line_of_report? isSecond]
  exact inOrder

end Lines

end ApiIndex.Document

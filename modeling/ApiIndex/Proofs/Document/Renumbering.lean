import ApiIndex.Proofs.Document.Outcome
import ApiIndex.Proofs.Document.Registration

namespace ApiIndex

/-!
# Documents with other line numbers

The number of a line reaches the target of a declaration, the line of what is
reported, and the message of a duplicate, which quotes a target.  Nothing is
decided by it.  A document whose directives are numbered differently therefore
has the same declarations, registers the same keys in the same order and reports
the same findings, each with the numbers that its lines have now.
-/

namespace Reference

/-- The same target, with the number that its line has now. -/
def Target.renumber
    (lineOf : Nat → Nat)
    (target : Target) :
    Target :=
  { target with line := lineOf target.line }

/-- The same key with the same target. -/
def Entry.renumber
    (lineOf : Nat → Nat)
    (entry : Entry) :
    Entry :=
  { entry with target := entry.target.renumber lineOf }

/-- The same entries in the same order. -/
def Registry.renumber
    (lineOf : Nat → Nat)
    (registry : Registry) :
    Registry :=
  ⟨registry.entries.map (Entry.renumber lineOf)⟩

/-- The same duplicate, quoting the same target. -/
def Duplicate.renumber
    (lineOf : Nat → Nat)
    (repeated : Duplicate) :
    Duplicate :=
  { repeated with existing := repeated.existing.renumber lineOf }

/-- Renumbering leaves the keys and their order alone. -/
@[simp] theorem Registry.keys_renumber
    (lineOf : Nat → Nat)
    (registry : Registry) :
    (registry.renumber lineOf).keys = registry.keys := by
  simp [Registry.renumber, Registry.keys, Entry.renumber,
    Function.comp_def]

end Reference

/-- The same problem.  Only a duplicate quotes a line. -/
def Problem.renumber
    (lineOf : Nat → Nat) :
    Problem →
      Problem
  | .unknownKind name =>
      .unknownKind name
  | .rejected rejection =>
      .rejected rejection
  | .duplicate repeated =>
      .duplicate (repeated.renumber lineOf)

@[simp] theorem Problem.severity_renumber
    (lineOf : Nat → Nat)
    (problem : Problem) :
    (problem.renumber lineOf).severity = problem.severity := by
  cases problem <;> rfl

namespace Document

open Reference (Entry Key Registry Target)

/-- The same directive on a line with another number. -/
def Directive.renumber
    (lineOf : Nat → Nat)
    (directive : Directive) :
    Directive :=
  { directive with line := lineOf directive.line }

/-- The same place in a document with other line numbers. -/
def Place.renumber
    (lineOf : Nat → Nat)
    (place : Place) :
    Place :=
  ⟨place.directive.renumber lineOf,
    place.earlier.map (Directive.renumber lineOf)⟩

/-- A problem at a line, before it is worded for a document. -/
structure Finding where
  line : Nat
  problem : Problem
  deriving Repr, DecidableEq

namespace Finding

/-- A finding as a document reports it. -/
def diagnostic
    (name : String)
    (finding : Finding) :
    Diagnostic :=
  Diagnostic.ofProblem name finding.line finding.problem

/-- The same finding, with the numbers that its lines have now. -/
def renumber
    (lineOf : Nat → Nat)
    (finding : Finding) :
    Finding :=
  ⟨lineOf finding.line, finding.problem.renumber lineOf⟩

end Finding

/-- What is found at a place: the problem of a rejected directive, or the first
target of the key of an accepted one. -/
def Place.finding?
    (name : String)
    (rule : NestingRule)
    (place : Place) :
    Option Finding :=
  match place.directive.resolve with
  | .error problem =>
      some ⟨place.directive.line, problem⟩
  | .ok _ =>
      (place.key? rule).bind fun key =>
        (firstTarget? name rule place.earlier.reverse key).map fun first =>
          ⟨place.directive.line, .duplicate ⟨key, first⟩⟩

/-- What is found in a document, in the order of its directives. -/
def findings
    (name : String)
    (rule : NestingRule)
    (directives : List Directive) :
    List Finding :=
  (places directives).filterMap (Place.finding? name rule)

section Findings

variable {name : String} {rule : NestingRule} {directives : List Directive}

/-- A report words what is found. -/
theorem report?_eq_finding?
    (place : Place) :
    place.report? name rule =
      (place.finding? name rule).map (Finding.diagnostic name) := by
  obtain ⟨directive, earlier⟩ := place
  cases resolved : directive.resolve with
  | error problem =>
      rw [report?_of_error resolved]
      simp [Place.finding?, resolved, Finding.diagnostic]
  | ok declaration =>
      have hasKey :=
        @key?_of_declared rule directive _ _ earlier
          (Directive.declared?_eq_some_iff.mpr resolved)
      rw [report?_of_key? hasKey]
      simp [Place.finding?, resolved, hasKey, Finding.diagnostic,
        Function.comp_def]

theorem diagnostics_eq_findings :
    (ofDirectives name rule directives).diagnostics =
      (findings name rule directives).map (Finding.diagnostic name) := by
  rw [diagnostics_ofDirectives, findings, List.map_filterMap]
  exact List.filterMap_congr fun place _ => report?_eq_finding? place

/-- A document reports findings only on lines of its directives. -/
theorem exists_directive_of_mem_findings
    {finding : Finding}
    (member : finding ∈ findings name rule directives) :
    ∃ directive ∈ directives, finding.line = directive.line := by
  obtain ⟨place, isPlace, found⟩ := List.mem_filterMap.mp member
  refine ⟨place.directive, directive_mem_of_mem_places isPlace, ?_⟩
  unfold Place.finding? at found
  split at found
  · cases found
    rfl
  · obtain ⟨key, -, isFirst⟩ := Option.bind_eq_some_iff.mp found
    obtain ⟨first, -, rfl⟩ := Option.map_eq_some_iff.mp isFirst
    rfl

/-- The first target of a key at a place stays the first one behind it. -/
theorem firstTarget?_of_mem_places
    {place : Place}
    {key : Key}
    {first : Target}
    (member : place ∈ places directives)
    (isFirst :
      firstTarget? name rule place.earlier.reverse key = some first) :
    firstTarget? name rule directives key = some first := by
  obtain ⟨later, whole⟩ := exists_behind_of_mem_places member
  obtain ⟨declaring, found, isTarget⟩ := Option.map_eq_some_iff.mp isFirst
  rw [whole, firstTarget?, places, placesBehind_append, List.find?_append]
  rw [places] at found
  simp [found, isTarget]

/-- A duplicate quotes the target that the document registers for its key. -/
theorem find?_of_mem_findings
    {line : Nat}
    {repeated : Reference.Duplicate}
    (member : ⟨line, .duplicate repeated⟩ ∈ findings name rule directives) :
    (ofDirectives name rule directives).registry.find? repeated.key =
      some repeated.existing := by
  obtain ⟨place, isPlace, found⟩ := List.mem_filterMap.mp member
  unfold Place.finding? at found
  split at found
  · next problem resolved =>
      cases found
      exact (Directive.not_duplicate_of_resolve resolved
        ⟨repeated, rfl⟩).elim
  · obtain ⟨key, -, isFirst⟩ := Option.bind_eq_some_iff.mp found
    obtain ⟨first, isTarget, same⟩ := Option.map_eq_some_iff.mp isFirst
    cases same
    rw [find?_ofDirectives]
    exact firstTarget?_of_mem_places isPlace isTarget

/-- What is registered stands on the line of a directive. -/
theorem exists_directive_of_find?
    {key : Key}
    {target : Target}
    (found :
      (ofDirectives name rule directives).registry.find? key =
        some target) :
    ∃ directive ∈ directives, target.line = directive.line := by
  rw [find?_ofDirectives] at found
  obtain ⟨place, isFirst, rfl⟩ := Option.map_eq_some_iff.mp found
  exact ⟨place.directive,
    directive_mem_of_mem_places (List.mem_of_find?_eq_some isFirst), rfl⟩

end Findings

section Renumbered

variable
  (name : String)
  (rule : NestingRule)
  (lineOf : Nat → Nat)
  (directives history : List Directive)

/-- The number of its line takes no part in what a directive declares. -/
@[simp] theorem declared?_renumber
    (directive : Directive) :
    (directive.renumber lineOf).declared? = directive.declared? :=
  rfl

@[simp] theorem rank_renumber :
    rank (history.map (Directive.renumber lineOf)) = rank history := by
  simp [rank, List.countP_map, Function.comp_def]

/-- The same directives are around what follows. -/
theorem enclosing_renumber
    (bound : Nat) :
    enclosing bound (history.map (Directive.renumber lineOf)) =
      (enclosing bound history).map (Place.renumber lineOf) := by
  induction history generalizing bound with
  | nil =>
      rfl
  | cons directive earlier inductionHypothesis =>
      have sameIndent :
          (directive.renumber lineOf).indent = directive.indent :=
        rfl
      rw [List.map_cons, enclosing, enclosing, sameIndent]
      split
      · rw [List.map_cons, inductionHypothesis]
        rfl
      · exact inductionHypothesis bound

theorem node?_renumber
    (place : Place) :
    (place.renumber lineOf).node? = place.node? := by
  simp [Place.node?, Place.renumber]

theorem filterMap_node?_enclosing_renumber
    (bound : Nat) :
    (enclosing bound (history.map (Directive.renumber lineOf))).filterMap
        Place.node? =
      (enclosing bound history).filterMap Place.node? := by
  rw [enclosing_renumber, List.filterMap_map]
  exact List.filterMap_congr fun place _ => node?_renumber lineOf place

theorem contributed_enclosing_renumber
    (bound : Nat) :
    contributed rule
        (enclosing bound (history.map (Directive.renumber lineOf))) =
      contributed rule (enclosing bound history) := by
  rw [contributed, contributed, enclosing_renumber, List.filterMap_map]
  rfl

@[simp] theorem key?_renumber
    (place : Place) :
    (place.renumber lineOf).key? rule = place.key? rule := by
  rw [Place.key?, Place.key?]
  simp only [Place.renumber, declared?_renumber,
    contributed_enclosing_renumber]
  rfl

theorem placesBehind_renumber :
    placesBehind (history.map (Directive.renumber lineOf))
        (directives.map (Directive.renumber lineOf)) =
      (placesBehind history directives).map (Place.renumber lineOf) := by
  induction directives generalizing history with
  | nil =>
      rfl
  | cons directive later inductionHypothesis =>
      rw [List.map_cons, placesBehind, placesBehind, List.map_cons,
        ← inductionHypothesis]
      rfl

theorem places_renumber :
    places (directives.map (Directive.renumber lineOf)) =
      (places directives).map (Place.renumber lineOf) :=
  placesBehind_renumber lineOf directives []

/-- The first target of a key is that of the same directive. -/
theorem firstTarget?_renumber
    (key : Key) :
    firstTarget? name rule (directives.map (Directive.renumber lineOf))
        key =
      (firstTarget? name rule directives key).map
        (Target.renumber lineOf) := by
  rw [firstTarget?, firstTarget?, places_renumber, List.find?_map,
    Option.map_map, Option.map_map]
  simp only [Function.comp_def, key?_renumber]
  rfl

theorem finding?_renumber
    (place : Place) :
    (place.renumber lineOf).finding? name rule =
      (place.finding? name rule).map (Finding.renumber lineOf) := by
  have sameResolve :
      (place.renumber lineOf).directive.resolve =
        place.directive.resolve :=
    rfl
  have sameLine :
      (place.renumber lineOf).directive.line =
        lineOf place.directive.line :=
    rfl
  have sameEarlier :
      (place.renumber lineOf).earlier.reverse =
        place.earlier.reverse.map (Directive.renumber lineOf) :=
    List.map_reverse.symm
  unfold Place.finding?
  rw [sameResolve, sameLine, sameEarlier, key?_renumber]
  cases resolved : place.directive.resolve with
  | error problem =>
      have sameProblem : problem.renumber lineOf = problem := by
        cases problem with
        | unknownKind =>
            rfl
        | rejected =>
            rfl
        | duplicate repeated =>
            exact (Directive.not_duplicate_of_resolve resolved
              ⟨repeated, rfl⟩).elim
      simp [Finding.renumber, sameProblem]
  | ok declaration =>
      simp only [firstTarget?_renumber]
      cases place.key? rule with
      | none =>
          rfl
      | some key =>
          simp [Function.comp_def, Finding.renumber, Problem.renumber,
            Reference.Duplicate.renumber]

/-- The same is found in a document with other line numbers. -/
theorem findings_renumber :
    findings name rule (directives.map (Directive.renumber lineOf)) =
      (findings name rule directives).map (Finding.renumber lineOf) := by
  rw [findings, findings, places_renumber, List.filterMap_map,
    List.map_filterMap]
  exact List.filterMap_congr fun place _ =>
    finding?_renumber name rule lineOf place

/-- The same is declared, nested in the same way. -/
theorem forest_foldl_renumber :
    ((directives.map (Directive.renumber lineOf)).foldl Builder.push
        (.start name rule)).forest =
      (directives.foldl Builder.push (.start name rule)).forest := by
  induction directives using List.reverseRecOn with
  | nil =>
      rfl
  | append_singleton directives directive inductionHypothesis =>
      have follows := (Builder.Follows.start name rule).foldl directives
      have twinFollows :=
        (Builder.Follows.start name rule).foldl
          (directives.map (Directive.renumber lineOf))
      have sameAround :=
        filterMap_node?_enclosing_renumber lineOf
          (directives.reverse ++ []) directive.indent
      rw [List.map_append, List.map_reverse] at sameAround
      rw [List.map_append, List.foldl_append, List.foldl_append]
      refine (twinFollows.forest_push _).trans ?_
      rw [inductionHypothesis]
      refine .trans ?_ (follows.forest_push directive).symm
      rw [declared?_renumber]
      exact sameAround ▸ rfl

theorem forest_ofDirectives_renumber :
    (ofDirectives name rule
        (directives.map (Directive.renumber lineOf))).forest =
      (ofDirectives name rule directives).forest := by
  have same := forest_foldl_renumber name rule lineOf directives
  rw [ofDirectives, ofDirectives,
    (Builder.coherent_and_linked_foldl name rule _).1.finish_eq,
    (Builder.coherent_and_linked_foldl name rule directives).1.finish_eq,
    same]

/-- The entry of a declaration leads to the same directive. -/
theorem entryOf?_renumber
    (forest : Forest)
    (id : NodeId) :
    entryOf? name (directives.map (Directive.renumber lineOf)) forest id =
      (entryOf? name directives forest id).map (Entry.renumber lineOf) := by
  rw [entryOf?, entryOf?, List.getElem?_map]
  cases forest.key? id with
  | none =>
      rfl
  | some key =>
      cases directives[id]? <;> rfl

/-- The same entries are registered in the same order. -/
theorem registry_ofDirectives_renumber :
    (ofDirectives name rule
        (directives.map (Directive.renumber lineOf))).registry =
      (ofDirectives name rule directives).registry.renumber lineOf := by
  obtain ⟨order, postorder, registered⟩ :=
    exists_postorder_registry name rule directives
  obtain ⟨twinOrder, twinPostorder, twinRegistered⟩ :=
    exists_postorder_registry name rule
      (directives.map (Directive.renumber lineOf))
  rw [forest_ofDirectives_renumber] at twinPostorder twinRegistered
  have sameDeclaring :
      ((directives.map (Directive.renumber lineOf)).filter
          fun directive => directive.declared?.isSome) =
        (directives.filter fun directive =>
          directive.declared?.isSome).map (Directive.renumber lineOf) := by
    rw [List.filter_map]
    rfl
  rw [registered, twinRegistered, twinPostorder.unique postorder,
    sameDeclaring, Registry.renumber, firstEntries, firstEntries,
    List.map_filterMap]
  exact congrArg Registry.mk
    (List.filterMap_congr fun id _ => entryOf?_renumber ..)

end Renumbered

/-- One document differs from another only by the numbers of its lines.
`directives` are those of the document with the old numbers. -/
structure Renumbers
    (lineOf : Nat → Nat)
    (directives : List Directive)
    (before after : Outcome) : Prop where
  name :
    after.name = before.name
  forest :
    after.forest = before.forest
  keys :
    after.registry.keys = before.registry.keys
  registry :
    after.registry = before.registry.renumber lineOf
  /-- Only lines of directives are renumbered in targets. -/
  targets :
    ∀ key target,
      before.registry.find? key = some target →
        ∃ directive ∈ directives, target.line = directive.line
  severities :
    after.diagnostics.map Diagnostic.severity =
      before.diagnostics.map Diagnostic.severity
  /-- The same is found, on lines of directives, and a duplicate quotes the
  registered target. -/
  reports :
    ∃ found : List Finding,
      before.diagnostics = found.map (Finding.diagnostic before.name) ∧
        after.diagnostics =
          (found.map (Finding.renumber lineOf)).map
            (Finding.diagnostic before.name) ∧
        ∀ finding ∈ found,
          (∃ directive ∈ directives, finding.line = directive.line) ∧
            ∀ repeated,
              finding.problem = .duplicate repeated →
                before.registry.find? repeated.key =
                  some repeated.existing

/-- Renumbering the directives of a document renumbers what becomes of it. -/
theorem ofDirectives_renumber
    (name : String)
    (rule : NestingRule)
    (lineOf : Nat → Nat)
    (directives : List Directive) :
    Renumbers lineOf directives (ofDirectives name rule directives)
      (ofDirectives name rule
        (directives.map (Directive.renumber lineOf))) where
  name := by
    rw [name_ofDirectives, name_ofDirectives]
  forest := forest_ofDirectives_renumber name rule lineOf directives
  keys := by
    rw [registry_ofDirectives_renumber, Registry.keys_renumber]
  registry := registry_ofDirectives_renumber name rule lineOf directives
  targets := fun _ _ => exists_directive_of_find?
  severities := by
    rw [diagnostics_eq_findings, diagnostics_eq_findings,
      findings_renumber]
    simp [Function.comp_def, Finding.diagnostic, Finding.renumber,
      Diagnostic.ofProblem]
  reports := by
    refine ⟨findings name rule directives, ?_, ?_, ?_⟩
    · rw [name_ofDirectives]
      exact diagnostics_eq_findings
    · rw [name_ofDirectives, ← findings_renumber]
      exact diagnostics_eq_findings
    · rintro ⟨line, problem⟩ member
      refine ⟨exists_directive_of_mem_findings member, ?_⟩
      rintro repeated rfl
      exact find?_of_mem_findings member

end Document

end ApiIndex

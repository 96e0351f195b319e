import ApiIndex.Proofs.Diagnostic
import ApiIndex.Proofs.Document.Outcome
import ApiIndex.Proofs.Document.Registration
import ApiIndex.Proofs.Forest.Rule
import Mathlib.Data.List.Find

namespace ApiIndex.Document

open Reference (Key)

/-!
# Documents under the two nesting rules

The nesting rule takes no part in reading signatures or in nesting.  A document
therefore has the same declarations and the same rejected directives under both
rules; only names differ, and with them which declarations are duplicates.
Where no declaration is named differently, all directives have the same keys,
and the registry and the diagnostics follow from the keys.
-/

namespace Builder

variable
  {name : String}
  {rule other : NestingRule}
  {history : List Directive}
  {builder twin : Builder}

/-- Pushing a directive keeps the forests of two documents alike that have taken
in the same directives under two rules. -/
theorem Follows.forest_push_under
    (follows : Follows name rule history builder)
    (twinFollows : Follows name other history twin)
    (same : twin.forest = builder.forest.under other)
    (directive : Directive) :
    (twin.push directive).forest =
      (builder.push directive).forest.under other := by
  rw [follows.forest_push, twinFollows.forest_push, same]
  cases directive.declared? with
  | none =>
      rfl
  | some declaration =>
      rw [← Forest.openNode_under]
      rfl

theorem forest_foldl_under
    (name : String)
    (rule other : NestingRule)
    (directives : List Directive) :
    (directives.foldl push (start name other)).forest =
      (directives.foldl push (start name rule)).forest.under other := by
  induction directives using List.reverseRecOn with
  | nil =>
      rfl
  | append_singleton directives directive inductionHypothesis =>
      rw [List.foldl_append, List.foldl_append]
      exact ((Follows.start name rule).foldl directives).forest_push_under
        ((Follows.start name other).foldl directives) inductionHypothesis
        directive

/-- Whether pushing a directive opens a scope without a declaration for it and
reports a diagnostic. -/
def Rejects
    (builder : Builder)
    (directive : Directive)
    (diagnostic : Diagnostic) :
    Prop :=
  (∃ indent claim outer,
    (builder.push directive).scopes = ⟨indent, none, claim⟩ :: outer) ∧
  (builder.push directive).diagnostics =
    builder.diagnostics ++ [diagnostic]

/-- A directive is rejected if nothing can be declared for it, whatever is
around it. -/
theorem Coherent.rejects_iff
    {directive : Directive}
    {diagnostic : Diagnostic}
    (coherent : builder.Coherent) :
    builder.Rejects directive diagnostic ↔
      ∃ problem,
        directive.resolve = .error problem ∧
          diagnostic =
            Diagnostic.ofProblem builder.name directive.line problem := by
  have closed := coherent.closeFrom_eq directive.indent
  cases resolved : directive.resolve with
  | error problem =>
      have reported :
          (builder.push directive).diagnostics =
            builder.diagnostics ++
              [Diagnostic.ofProblem builder.name directive.line
                problem] := by
        rw [push_of_error resolved, closed]
        rfl
      have opened :
          ∃ indent claim outer,
            (builder.push directive).scopes =
              ⟨indent, none, claim⟩ :: outer := by
        rw [push_of_error resolved]
        exact ⟨_, _, _, rfl⟩
      rw [Rejects, reported]
      simp [opened, eq_comm]
  | ok declaration =>
      obtain ⟨claim, scopes⟩ :=
        @exists_accept_scopes (builder.closeFrom directive.indent)
          directive declaration.1 declaration.2
      rw [Rejects, push_of_ok resolved, scopes]
      simp

end Builder

/-- Whether a document rejects its directive at a position with a
diagnostic. -/
def RejectsAt
    (name : String)
    (rule : NestingRule)
    (directives : List Directive)
    (position : Nat)
    (diagnostic : Diagnostic) :
    Prop :=
  ∃ directive,
    directives[position]? = some directive ∧
      Builder.Rejects
        ((directives.take position).foldl Builder.push
          (.start name rule))
        directive diagnostic

section Finished

variable
  {name : String}
  {rule other : NestingRule}
  {directives : List Directive}

theorem rejectsAt_iff
    {position : Nat}
    {diagnostic : Diagnostic} :
    RejectsAt name rule directives position diagnostic ↔
      ∃ directive problem,
        directives[position]? = some directive ∧
          directive.resolve = .error problem ∧
            diagnostic =
              Diagnostic.ofProblem name directive.line problem := by
  have follows :=
    (Builder.Follows.start name rule).foldl (directives.take position)
  simp only [RejectsAt, follows.coherent.rejects_iff, follows.name,
    exists_and_left]

/-- What is reported for a directive that is rejected. -/
def Directive.rejection?
    (name : String)
    (directive : Directive) :
    Option Diagnostic :=
  match directive.resolve with
  | .error problem =>
      some (Diagnostic.ofProblem name directive.line problem)
  | .ok _ =>
      none

/-- Apart from duplicates, only rejections are reported. -/
theorem filter_report?
    (place : Place) :
    ((place.report? name rule).filter fun diagnostic =>
        ¬ diagnostic.IsDuplicate) =
      place.directive.rejection? name := by
  obtain ⟨directive, history⟩ := place
  cases resolved : directive.resolve with
  | error problem =>
      have notDuplicate :
          ¬ (Diagnostic.ofProblem name directive.line
              problem).IsDuplicate := by
        rw [Diagnostic.isDuplicate_ofProblem_iff]
        exact Directive.not_duplicate_of_resolve resolved
      rw [report?_of_error resolved]
      simp [Directive.rejection?, resolved, notDuplicate]
  | ok declaration =>
      have declared := Directive.declared?_eq_some_iff.mpr resolved
      rw [report?_of_key? (key?_of_declared declared)]
      simp [Directive.rejection?, resolved, Option.filter_eq_none_iff,
        Diagnostic.isDuplicate_ofProblem_iff]

/-- Apart from duplicates, a document reports the rejections of its directives,
in order. -/
theorem filter_diagnostics_ofDirectives :
    ((ofDirectives name rule directives).diagnostics.filter
        fun diagnostic => ¬ diagnostic.IsDuplicate) =
      directives.filterMap (Directive.rejection? name) := by
  have eachPlace :=
    congrArg (List.filterMap (Directive.rejection? name))
      (map_directive_placesBehind [] directives)
  rw [List.filterMap_map] at eachPlace
  rw [diagnostics_ofDirectives, List.filter_filterMap, ← eachPlace]
  exact List.filterMap_congr fun place _ => filter_report? place

/-- The nesting rule leaves the declarations and their nesting alone. -/
theorem forest_ofDirectives_under
    (name : String)
    (rule other : NestingRule)
    (directives : List Directive) :
    (ofDirectives name other directives).forest =
      (ofDirectives name rule directives).forest.under other := by
  have same := Builder.forest_foldl_under name rule other directives
  rw [ofDirectives, ofDirectives,
    (Builder.coherent_and_linked_foldl name rule directives).1.finish_eq,
    (Builder.coherent_and_linked_foldl name other directives).1.finish_eq,
    same]
  rfl

/-- A directive has the key of what is declared for it. -/
theorem key?_of_mem_places
    {place : Place}
    (name : String)
    (rule : NestingRule)
    (member : place ∈ places directives) :
    place.key? rule =
      place.node?.bind (ofDirectives name rule directives).forest.key? := by
  obtain ⟨directive, history⟩ := place
  have isSuffix : directive :: history <:+ directives.reverse :=
    suffix_of_mem_places member
  cases declared : directive.declared? with
  | none =>
      rw [key?_of_rejected declared]
      simp [Place.node?, declared]
  | some declaration =>
      obtain ⟨kind, signature⟩ := declaration
      have records := records_ofDirectives name rule directives
      have named := records.qualifiedName?_eq isSuffix declared
      obtain ⟨children, found⟩ :=
        records.nodes directive history kind signature isSuffix declared
      rw [rule_ofDirectives] at named
      rw [key?_of_declared declared]
      simp [Place.node?, declared, Forest.key?, found, named]

/-- What is reported at a place follows from the keys of the places up to
it. -/
theorem report?_congr
    (sameKeys :
      ∀ place ∈ places directives, place.key? rule = place.key? other)
    {place : Place}
    (member : place ∈ places directives) :
    place.report? name rule = place.report? name other := by
  have sameFirst
      (key : Key) :
      firstTarget? name rule place.earlier.reverse key =
        firstTarget? name other place.earlier.reverse key := by
    have sameSearch :
        ((places place.earlier.reverse).find? fun earlier =>
            earlier.key? rule == some key) =
          (places place.earlier.reverse).find? fun earlier =>
            earlier.key? other == some key := by
      apply List.find?_congr
      intro earlier isEarlier
      rw [sameKeys earlier (mem_places_of_mem_earlier member isEarlier)]
    rw [firstTarget?, sameSearch, firstTarget?]
  simp only [Place.report?, sameKeys place member, sameFirst]

section Keys

variable
  (sameKeys :
    ∀ id,
      (ofDirectives name rule directives).forest.key? id =
        (ofDirectives name other directives).forest.key? id)

include sameKeys

/-- If all declarations have the same keys under two rules, the same problems
are reported. -/
theorem diagnostics_eq_of_keys :
    (ofDirectives name rule directives).diagnostics =
      (ofDirectives name other directives).diagnostics := by
  rw [diagnostics_ofDirectives, diagnostics_ofDirectives]
  apply List.filterMap_congr
  intro place member
  refine report?_congr (fun place member => ?_) member
  rw [key?_of_mem_places name rule member,
    key?_of_mem_places name other member]
  exact congrArg place.node?.bind (funext sameKeys)

/-- If all declarations have the same keys under two rules, the same entries are
registered in the same order. -/
theorem registry_eq_of_keys :
    (ofDirectives name rule directives).registry =
      (ofDirectives name other directives).registry := by
  obtain ⟨order, postorder, registered⟩ :=
    exists_postorder_registry name rule directives
  obtain ⟨otherOrder, otherPostorder, otherRegistered⟩ :=
    exists_postorder_registry name other directives
  have sameOrder : otherOrder = order := by
    refine otherPostorder.unique ?_
    rw [forest_ofDirectives_under name rule other directives]
    exact postorder.congr fun _ _ => rfl
  rw [registered, otherRegistered, sameOrder, firstEntries_congr sameKeys]

end Keys

end Finished

/-- The legacy and the symmetric rule lead to the same declarations, the same
nesting and the same rejections.  The name of a declaration shows under the
legacy rule some of the segments that it shows under the symmetric rule, and is
the same name if and only if no structure, interface, delegate or enumeration is
around the declaration.  Where that holds of every declaration, the registries
and the diagnostics are the same. -/
theorem rules_differ_only_under_skipped
    (name : String)
    (directives : List Directive) :
    let legacy := ofDirectives name .legacy directives
    let symmetric := ofDirectives name .symmetric directives
    (legacy.forest.nodes = symmetric.forest.nodes ∧
      legacy.forest.roots = symmetric.forest.roots) ∧
      (∀ position diagnostic,
        RejectsAt name .legacy directives position diagnostic ↔
          RejectsAt name .symmetric directives position diagnostic) ∧
      ((legacy.diagnostics.filter fun diagnostic =>
          ¬ diagnostic.IsDuplicate) =
        symmetric.diagnostics.filter fun diagnostic =>
          ¬ diagnostic.IsDuplicate) ∧
      (∀ id node,
        legacy.forest.node? id = some node →
          ∃ segments more,
            legacy.forest.segments? id = some segments ∧
              symmetric.forest.segments? id = some more ∧
              segments.Sublist more ∧
              (legacy.forest.qualifiedName? id =
                  symmetric.forest.qualifiedName? id ↔
                ¬ legacy.forest.UnderSkipped id)) ∧
      ((∀ id node,
        legacy.forest.node? id = some node →
          ¬ legacy.forest.UnderSkipped id) →
        legacy.registry = symmetric.registry ∧
          legacy.diagnostics = symmetric.diagnostics) := by
  intro legacy symmetric
  have linked : legacy.forest.Linked :=
    linked_ofDirectives name .legacy directives
  have itself : legacy.forest = legacy.forest.under .legacy :=
    forest_ofDirectives_under name .legacy .legacy directives
  have twin : symmetric.forest = legacy.forest.under .symmetric :=
    forest_ofDirectives_under name .legacy .symmetric directives
  refine ⟨⟨?_, ?_⟩, ?_, ?_, ?_, ?_⟩
  · rw [twin]
    rfl
  · rw [twin]
    rfl
  · intro position diagnostic
    rw [rejectsAt_iff, rejectsAt_iff]
  · rw [filter_diagnostics_ofDirectives, filter_diagnostics_ofDirectives]
  · intro id node found
    have segments := Forest.segments?_under found .legacy
    have more := Forest.segments?_under found .symmetric
    have names := linked.qualifiedName?_under_eq_iff found
    rw [← itself] at segments names
    rw [← twin] at more names
    exact ⟨_, _, segments, more,
      (legacy.forest.shownAround_sublist node).append_right _, names⟩
  · intro noneUnder
    have sameKeys := linked.key?_under_eq noneUnder
    rw [← itself, ← twin] at sameKeys
    exact ⟨registry_eq_of_keys sameKeys, diagnostics_eq_of_keys sameKeys⟩

/-- A document with a rejected method and a class that is declared twice is
registered alike until a field follows in its structure. -/
theorem rules_differ_on_field_of_structure :
    let directives : List Directive :=
      [⟨1, 0, "namespace", "Maps"⟩, ⟨2, 4, "class", "Edge"⟩,
        ⟨3, 4, "method", "area("⟩, ⟨4, 4, "class", "Edge"⟩,
        ⟨5, 4, "structure", "Grid"⟩]
    let more := directives ++ [⟨6, 8, "field", "Cell"⟩]
    ((ofDirectives "maps" .legacy directives).registry =
        (ofDirectives "maps" .symmetric directives).registry ∧
      (ofDirectives "maps" .legacy directives).diagnostics =
        (ofDirectives "maps" .symmetric directives).diagnostics) ∧
      (ofDirectives "maps" .legacy more).forest.qualifiedName? 4 =
        some "Maps.Cell" ∧
      (ofDirectives "maps" .symmetric more).forest.qualifiedName? 4 =
        some "Maps.Grid.Cell" ∧
      (ofDirectives "maps" .legacy more).forest.UnderSkipped 4 := by
  intro directives more
  obtain ⟨-, -, -, -, sameIfNoneUnder⟩ :=
    rules_differ_only_under_skipped "maps" directives
  obtain ⟨-, -, -, names, -⟩ :=
    rules_differ_only_under_skipped "maps" more
  have noneSkipped :
      let forest := (ofDirectives "maps" .legacy directives).forest
      ∀ node ∈ forest.nodes, ∀ above ∈ forest.ancestors node,
        above.kind ∉ NestingRule.skippedKinds := by
    decide +kernel
  have legacyName :
      (ofDirectives "maps" .legacy more).forest.qualifiedName? 4 =
        some "Maps.Cell" := by
    decide +kernel
  have symmetricName :
      (ofDirectives "maps" .symmetric more).forest.qualifiedName? 4 =
        some "Maps.Grid.Cell" := by
    decide +kernel
  have field :
      (ofDirectives "maps" .legacy more).forest.node? 4 =
        some ⟨.field, ⟨"Cell", none, "Cell", none⟩, some 3, []⟩ := by
    decide +kernel
  refine ⟨sameIfNoneUnder ?_, legacyName, symmetricName, ?_⟩
  · intro id node found under
    obtain ⟨above, isAround, skipped⟩ :=
      ((linked_ofDirectives _ _ _).underSkipped_iff found).mp under
    exact noneSkipped node (List.mem_of_getElem? found) above isAround
      skipped
  · obtain ⟨-, -, -, -, -, sameName⟩ := names 4 _ field
    by_contra notUnder
    have same := sameName.mpr notUnder
    rw [legacyName, symmetricName] at same
    exact absurd same (by decide)

end ApiIndex.Document

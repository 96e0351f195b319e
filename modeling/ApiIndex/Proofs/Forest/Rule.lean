import ApiIndex.Proofs.Forest.Key
import Mathlib.Data.List.Flatten

namespace ApiIndex

/-!
# Names under the two nesting rules

The nesting rule of a forest decides which declarations are shown in the
qualified names of those nested in them, and nothing else.  Whatever is shown
under the legacy rule is shown under the symmetric rule as well.  Since every
segment makes a name longer, by a separator at least, a declaration has the same
name under both rules only if both show the same segments in it, and then no
structure, interface, delegate or enumeration is around it.
-/

namespace NestingRule

/-- The kinds that the legacy rule skips among those that hold nested
declarations. -/
def skippedKinds : List Kind :=
  [.structureType, .interface, .delegate, .enumeration]

/-- On all other kinds the two rules agree. -/
theorem contributes_eq_iff
    {kind : Kind} :
    legacy.contributes kind = symmetric.contributes kind ↔
      kind ∉ skippedKinds := by
  cases kind <;> decide

/-- Behind all segments but the last one, a separator is written. -/
theorem length_render
    {segments : List String}
    (nonempty : segments ≠ []) :
    (render segments).length + 1 =
      (segments.flatMap String.toList).length + segments.length := by
  induction segments with
  | nil =>
      exact (nonempty rfl).elim
  | cons segment segments inductionHypothesis =>
      cases segments with
      | nil =>
          simp [render, String.length_toList]
      | cons next segments =>
          have later := inductionHypothesis (by simp)
          have joined :
              (render (segment :: next :: segments)).length =
                segment.length + 1 + (render (next :: segments)).length := by
            rw [render, String.intercalate_cons_cons, String.length_append,
              String.length_append]
            rfl
          rw [List.flatMap_cons, List.length_append, String.length_toList,
            List.length_cons, joined]
          omega

/-- A name that shows only some of the segments of an equal name shows them
all. -/
theorem eq_of_render_eq
    {segments more : List String}
    (nonempty : segments ≠ [])
    (fewer : segments.Sublist more)
    (same : render segments = render more) :
    segments = more := by
  have written := length_render nonempty
  have moreWritten :=
    length_render fun isNil => nonempty (List.sublist_nil.mp (isNil ▸ fewer))
  have shorter := (fewer.flatMap String.toList).length_le
  have fewerSegments := fewer.length_le
  rw [same] at written
  exact fewer.eq_of_length (by omega)

end NestingRule

namespace Forest

/-- The same declarations under a nesting rule. -/
def under
    (forest : Forest)
    (rule : NestingRule) :
    Forest :=
  { forest with rule := rule }

/-- Whether a structure, an interface, a delegate or an enumeration is around a
declaration. -/
def UnderSkipped
    (forest : Forest)
    (id : NodeId) :
    Prop :=
  ∃ ancestor above,
    forest.IsAncestor ancestor id ∧
      forest.node? ancestor = some above ∧
        above.kind ∈ NestingRule.skippedKinds

variable
  {forest : Forest}
  {id : NodeId}
  {node : Node}

section Under

variable (forest : Forest) (rule : NestingRule)

theorem openNode_under
    (kind : Kind)
    (signature : Signature) :
    (forest.under rule).openNode kind signature =
      (forest.openNode kind signature).under rule := by
  have sameCurrent : (forest.under rule).current? = forest.current? := rfl
  unfold openNode
  rw [sameCurrent]
  cases forest.current? <;> rfl

theorem climb_under
    (steps : Nat)
    (start : Option NodeId) :
    (forest.under rule).climb steps start = forest.climb steps start := by
  induction steps generalizing start with
  | zero =>
      rfl
  | succ steps inductionHypothesis =>
      cases start with
      | none =>
          rfl
      | some id =>
          have sameNode : (forest.under rule).node? id = forest.node? id :=
            rfl
          simp only [climb, sameNode, inductionHypothesis]

/-- The segments that a rule shows in front of the name of a declaration,
outermost first. -/
def shownAround
    (node : Node) :
    List String :=
  (((forest.ancestors node).filter fun ancestor =>
      rule.contributes ancestor.kind).map
        fun ancestor => ancestor.signature.fullName).reverse

end Under

theorem segments?_under
    (found : forest.node? id = some node)
    (rule : NestingRule) :
    (forest.under rule).segments? id =
      some (forest.shownAround rule node ++ [node.signature.fullName]) := by
  have foundUnder : (forest.under rule).node? id = some node := found
  have sameAncestors :
      (forest.under rule).ancestors node = forest.ancestors node :=
    forest.climb_under rule _ _
  rw [segments?, foundUnder, Option.map_some, sameAncestors]
  rfl

theorem qualifiedName?_under
    (found : forest.node? id = some node)
    (rule : NestingRule) :
    (forest.under rule).qualifiedName? id =
      some (NestingRule.render
        (forest.shownAround rule node ++ [node.signature.fullName])) := by
  rw [qualifiedName?, segments?_under found, Option.map_some]

/-- The legacy rule shows some of the declarations that the symmetric rule
shows, in the same order. -/
theorem filter_legacy_sublist
    (around : List Node) :
    (around.filter fun ancestor =>
        NestingRule.legacy.contributes ancestor.kind).Sublist
      (around.filter fun ancestor =>
        NestingRule.symmetric.contributes ancestor.kind) :=
  around.monotone_filter_right fun _ contributed =>
    NestingRule.contributes_symmetric_of_legacy contributed

theorem shownAround_sublist
    (forest : Forest)
    (node : Node) :
    (forest.shownAround .legacy node).Sublist
      (forest.shownAround .symmetric node) :=
  ((filter_legacy_sublist _).map _).reverse

/-- Both rules show the same segments in front of a name if and only if the
legacy rule skips none of the declarations around it. -/
theorem shownAround_eq_iff :
    forest.shownAround .legacy node = forest.shownAround .symmetric node ↔
      ∀ above ∈ forest.ancestors node,
        above.kind ∉ NestingRule.skippedKinds := by
  constructor
  · intro same above isAround skipped
    have lengths := congrArg List.length same
    simp only [shownAround, List.length_reverse, List.length_map] at lengths
    have sameShown :=
      (filter_legacy_sublist (forest.ancestors node)).eq_of_length lengths
    have sameMembers := iff_of_eq (congrArg (above ∈ ·) sameShown)
    simp only [List.mem_filter, isAround, true_and] at sameMembers
    exact NestingRule.contributes_eq_iff.mp
      (Bool.eq_iff_iff.mpr sameMembers) skipped
  · intro noneSkipped
    have sameShown :
        ((forest.ancestors node).filter fun ancestor =>
            NestingRule.legacy.contributes ancestor.kind) =
          (forest.ancestors node).filter fun ancestor =>
            NestingRule.symmetric.contributes ancestor.kind := by
      apply List.filter_congr
      intro above isAround
      exact NestingRule.contributes_eq_iff.mpr (noneSkipped above isAround)
    rw [shownAround, sameShown, shownAround]

theorem Linked.underSkipped_iff
    (linked : forest.Linked)
    (found : forest.node? id = some node) :
    forest.UnderSkipped id ↔
      ∃ above ∈ forest.ancestors node,
        above.kind ∈ NestingRule.skippedKinds := by
  simp only [linked.mem_ancestors_iff found]
  constructor
  · rintro ⟨ancestor, above, isAncestor, foundAbove, skipped⟩
    exact ⟨above, ⟨ancestor, isAncestor, foundAbove⟩, skipped⟩
  · rintro ⟨above, ⟨ancestor, isAncestor, foundAbove⟩, skipped⟩
    exact ⟨ancestor, above, isAncestor, foundAbove, skipped⟩

/-- A declaration has the same qualified name under both rules if and only if
no structure, interface, delegate or enumeration is around it. -/
theorem Linked.qualifiedName?_under_eq_iff
    (linked : forest.Linked)
    (found : forest.node? id = some node) :
    (forest.under .legacy).qualifiedName? id =
        (forest.under .symmetric).qualifiedName? id ↔
      ¬ forest.UnderSkipped id := by
  rw [linked.underSkipped_iff found, qualifiedName?_under found,
    qualifiedName?_under found, Option.some.injEq]
  simp only [not_exists, not_and]
  rw [← shownAround_eq_iff]
  constructor
  · intro sameNames
    have fewer :=
      (forest.shownAround_sublist node).append_right
        [node.signature.fullName]
    exact List.append_cancel_right
      (NestingRule.eq_of_render_eq (by simp) fewer sameNames)
  · intro sameShown
    rw [sameShown]

/-- Where no structure, interface, delegate or enumeration is around any
declaration, all keys are the same under both rules. -/
theorem Linked.key?_under_eq
    (linked : forest.Linked)
    (noneUnder :
      ∀ id node,
        forest.node? id = some node → ¬ forest.UnderSkipped id)
    (id : NodeId) :
    (forest.under .legacy).key? id = (forest.under .symmetric).key? id := by
  have sameNode
      (rule : NestingRule) :
      (forest.under rule).node? id = forest.node? id :=
    rfl
  rw [key?, key?, sameNode, sameNode]
  cases found : forest.node? id with
  | none =>
      rfl
  | some node =>
      rw [(linked.qualifiedName?_under_eq_iff found).mpr
        (noneUnder id node found)]

end Forest

end ApiIndex

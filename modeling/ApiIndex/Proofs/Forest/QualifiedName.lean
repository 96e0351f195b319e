import ApiIndex.Proofs.Forest.Ancestry
import ApiIndex.Proofs.Signature.Nested

namespace ApiIndex

/-!
# Qualified names are read again

In a forest of declarations that were read for their kinds, qualified names are
dotted names.  The qualified name of a declaration is read for its kind again,
unless a declaration around it contributes a member that ends in an indexer.
-/

/-- Whatever contributes to qualified names is read by the plain grammar. -/
theorem NestingRule.grammar_of_contributes
    {rule : NestingRule}
    {kind : Kind}
    (contributes : rule.contributes kind = true) :
    kind.grammar = .plain := by
  cases rule <;> cases kind <;>
    first | rfl | exact absurd contributes (by decide)

namespace Forest

variable {forest : Forest} {id : NodeId} {node : Node}

/-- What every opened declaration is read from, every declaration of the grown
forest is. -/
theorem exists_parse_of_grown
    {rule : NestingRule}
    {events : List Event}
    (accepted :
      ∀ kind signature,
        .opens kind signature ∈ events →
          ∃ raw, Signature.parse raw kind = .ok signature)
    (found : (grown rule events).node? id = some node) :
    ∃ raw, Signature.parse raw node.kind = .ok node.signature := by
  have isDeclared :
      (node.kind, node.signature) ∈ (grown rule events).declared :=
    List.mem_map_of_mem (List.mem_of_getElem? found)
  rw [declared_grown] at isDeclared
  obtain ⟨event, member, declares⟩ := List.mem_filterMap.mp isDeclared
  cases event with
  | opens kind signature =>
      cases declares
      exact accepted _ _ member
  | closes =>
      cases declares

/-- The signatures that contribute to the qualified name of a declaration
besides its own, outermost first. -/
def contributions
    (forest : Forest)
    (node : Node) :
    List Signature :=
  (((forest.ancestors node).filter fun ancestor =>
      forest.rule.contributes ancestor.kind).map Node.signature).reverse

theorem qualifiedName?_eq_render
    (found : forest.node? id = some node) :
    forest.qualifiedName? id =
      some (NestingRule.render
        ((forest.contributions node).map Signature.fullName ++
          [node.signature.fullName])) := by
  simp [qualifiedName?, segments?, found, contributions,
    Function.comp_def]

theorem Linked.mem_contributions_iff
    {scope : Signature}
    (linked : forest.Linked)
    (found : forest.node? id = some node) :
    scope ∈ forest.contributions node ↔
      ∃ ancestor above,
        forest.IsAncestor ancestor id ∧
          forest.node? ancestor = some above ∧
            forest.rule.contributes above.kind = true ∧
              above.signature = scope := by
  simp only [contributions, List.mem_reverse, List.mem_map,
    List.mem_filter, linked.mem_ancestors_iff found]
  constructor
  · rintro ⟨above, ⟨⟨ancestor, isAncestor, foundAbove⟩, contributes⟩,
      isScope⟩
    exact ⟨ancestor, above, isAncestor, foundAbove, contributes, isScope⟩
  · rintro ⟨ancestor, above, isAncestor, foundAbove, contributes,
      isScope⟩
    exact ⟨above, ⟨⟨ancestor, isAncestor, foundAbove⟩, contributes⟩,
      isScope⟩

/-- Whether a declaration around another one contributes a member that ends in
an indexer to its qualified name. -/
def UnderIndexer
    (forest : Forest)
    (id : NodeId) :
    Prop :=
  ∃ ancestor above,
    forest.IsAncestor ancestor id ∧
      forest.node? ancestor = some above ∧
        forest.rule.contributes above.kind = true ∧
          Signature.EndsInIndexer above.signature.member.toList

theorem Linked.underIndexer_iff
    (linked : forest.Linked)
    (found : forest.node? id = some node) :
    forest.UnderIndexer id ↔
      ∃ scope ∈ forest.contributions node,
        Signature.EndsInIndexer scope.member.toList := by
  simp only [linked.mem_contributions_iff found]
  constructor
  · rintro ⟨ancestor, above, isAncestor, foundAbove, contributes, ends⟩
    exact ⟨above.signature,
      ⟨ancestor, above, isAncestor, foundAbove, contributes, rfl⟩, ends⟩
  · rintro ⟨scope,
      ⟨ancestor, above, isAncestor, foundAbove, contributes, rfl⟩, ends⟩
    exact ⟨ancestor, above, isAncestor, foundAbove, contributes, ends⟩

/-- The qualified name of a declaration is read for its kind again exactly if
no contributing declaration around it ends in an indexer, and is rejected for
that indexer otherwise. -/
theorem qualifiedName_reads_again_iff_not_underIndexer
    (rule : NestingRule)
    (events : List Event)
    (accepted :
      ∀ kind signature,
        .opens kind signature ∈ events →
          ∃ raw, Signature.parse raw kind = .ok signature)
    (id : NodeId)
    (node : Node)
    (found : (grown rule events).node? id = some node) :
    ∃ name,
      (grown rule events).qualifiedName? id = some name ∧
        ((∃ again,
            Signature.parse name node.kind = .ok again ∧
              again.fullName = name ∧ again.arguments = none) ↔
          ¬ (grown rule events).UnderIndexer id) ∧
        ((grown rule events).UnderIndexer id →
          ∃ offset,
            Signature.parse name node.kind =
              .error ⟨name, .indexerNotAllowed offset⟩) := by
  have linked := Linked.grown rule events
  have scopes :
      ∀ scope ∈ (grown rule events).contributions node,
        ∃ raw kind,
          kind.grammar = .plain ∧
            Signature.parse raw kind = .ok scope := by
    intro scope member
    obtain ⟨ancestor, above, -, foundAbove, contributes, rfl⟩ :=
      (linked.mem_contributions_iff found).mp member
    obtain ⟨raw, read⟩ := exists_parse_of_grown accepted foundAbove
    exact ⟨raw, above.kind, NestingRule.grammar_of_contributes contributes,
      read⟩
  obtain ⟨segments, segmented⟩ := Signature.exists_segmented scopes
  obtain ⟨raw, read⟩ := exists_parse_of_grown accepted found
  have rejected :
      (grown rule events).UnderIndexer id → _ := fun under =>
    segmented.parse_render_of_indexer read
      ((linked.underIndexer_iff found).mp under)
  refine ⟨_, qualifiedName?_eq_render found, ⟨?_, ?_⟩, rejected⟩
  · rintro ⟨again, reads, -⟩ under
    obtain ⟨offset, fails⟩ := rejected under
    simp only [reads, reduceCtorEq] at fails
  · intro notUnder
    rw [linked.underIndexer_iff found] at notUnder
    exact segmented.parse_render_of_no_indexer read notUnder

/-- A class that is declared with an indexer has a name that is read again, and
its field does not. -/
theorem qualifiedName_of_field_of_indexed_class :
    let forest :=
      grown .legacy
        [.opens .namespaceScope ⟨"Maps", none, "Maps", none⟩,
          .opens .classType ⟨"Grid[x]", none, "Grid[x]", none⟩,
          .opens .field ⟨"Cell", none, "Cell", none⟩]
    forest.qualifiedName? 1 = some "Maps.Grid[x]" ∧
      ¬ forest.UnderIndexer 1 ∧
      forest.qualifiedName? 2 = some "Maps.Grid[x].Cell" ∧
      forest.UnderIndexer 2 ∧
      ∃ offset,
        Signature.parse "Maps.Grid[x].Cell" .field =
          .error ⟨"Maps.Grid[x].Cell", .indexerNotAllowed offset⟩ := by
  intro forest
  have accepted
      (kind : Kind)
      (signature : Signature)
      (member :
        .opens kind signature ∈
          [Event.opens .namespaceScope ⟨"Maps", none, "Maps", none⟩,
            .opens .classType ⟨"Grid[x]", none, "Grid[x]", none⟩,
            .opens .field ⟨"Cell", none, "Cell", none⟩]) :
      ∃ raw, Signature.parse raw kind = .ok signature := by
    simp only [List.mem_cons, Event.opens.injEq, List.not_mem_nil,
      or_false] at member
    rcases member with ⟨rfl, rfl⟩ | ⟨rfl, rfl⟩ | ⟨rfl, rfl⟩
    · exact ⟨"Maps", by decide +kernel⟩
    · exact ⟨"Grid[x]", by decide +kernel⟩
    · exact ⟨"Cell", by decide +kernel⟩
  have atClass :=
    qualifiedName_reads_again_iff_not_underIndexer .legacy _ accepted 1 _
      rfl
  have atField :=
    qualifiedName_reads_again_iff_not_underIndexer .legacy _ accepted 2 _
      rfl
  have className : forest.qualifiedName? 1 = some "Maps.Grid[x]" := by
    decide +kernel
  have fieldName : forest.qualifiedName? 2 = some "Maps.Grid[x].Cell" := by
    decide +kernel
  have under : forest.UnderIndexer 2 := by
    refine ⟨1, _, .single rfl, rfl, rfl, "Grid".toList, ['x'], rfl, ?_⟩
    exact (@Signature.checkGroup_eq_ok_iff 0 _).mp (by decide +kernel)
  obtain ⟨name, isName, reads, -⟩ := atClass
  obtain rfl := Option.some.inj (isName.symm.trans className)
  obtain ⟨name, isName, -, fails⟩ := atField
  obtain rfl := Option.some.inj (isName.symm.trans fieldName)
  refine ⟨className, reads.mp ⟨⟨"Maps.Grid[x]", some "Maps", "Grid[x]",
    none⟩, ?_, rfl, rfl⟩, fieldName, under, fails under⟩
  decide +kernel

end Forest

end ApiIndex

import ApiIndex.Proofs.Forest.Ancestry

namespace ApiIndex.Forest

/-!
# Names are fixed at opening

The open declarations are the innermost one and those around it, up to a root.
What is opened next is named after those of them that contribute.  Since nothing
that follows changes a parent, climbing from it meets the same declarations ever
after, and it keeps its name.
-/

section Grown

variable {rule : NestingRule} {events : List Event} {id : NodeId}

/-- Whatever follows, a forest only grows. -/
theorem extends_grown_append
    (more : List Event) :
    (grown rule (events ++ more)).Extends (grown rule events) := by
  induction more using List.reverseRecOn with
  | nil =>
      rw [List.append_nil]
      exact .of_nodes_eq rfl rfl
  | append_singleton more event inductionHypothesis =>
      rw [← List.append_assoc, grown_append_singleton]
      cases event with
      | opens kind signature =>
          exact (Extends.openNode _ kind signature).trans
            inductionHypothesis
      | closes =>
          have sameNodes :
              (grown rule (events ++ more)).closeNode.Extends
                (grown rule (events ++ more)) :=
            .of_nodes_eq rfl rfl
          exact sameNodes.trans inductionHypothesis

/-- What is opened stays in the forest, below what was open before it. -/
theorem exists_node?_of_opening
    (earlier : List Event)
    (kind : Kind)
    (signature : Signature)
    (later : List Event) :
    ∃ children,
      (grown rule (earlier ++ .opens kind signature :: later)).node?
          (grown rule earlier).size =
        some ⟨kind, signature, (grown rule earlier).current?,
          children⟩ := by
  have grows :=
    @extends_grown_append rule (earlier ++ [.opens kind signature]) later
  rw [List.append_assoc, List.singleton_append,
    grown_append_singleton] at grows
  exact grows.nodes _ _ (node?_openNode_size _ kind signature)

/-- The open declarations are the way up from the innermost one. -/
theorem ascends_scope_grown :
    (grown rule events).Ascends (grown rule events).current?
      (grown rule events).scope := by
  apply @grown_induction fun forest =>
    forest.Ascends forest.current? forest.scope
  · exact .root
  · intro forest kind signature ascends
    rw [current?, scope_openNode]
    exact .step (node?_openNode_size forest kind signature)
      (ascends.of_extends (.openNode forest kind signature))
  · intro forest ascends
    have sameNodes : forest.closeNode.Extends forest :=
      .of_nodes_eq rfl rfl
    cases shape : forest.scope with
    | nil =>
        rw [current?, closeNode, shape]
        exact .root
    | cons innermost outer =>
        rw [current?, shape] at ascends
        cases ascends with
        | step found further =>
            have outerOpen : forest.closeNode.scope = outer := by
              rw [closeNode, shape, List.tail_cons]
            rw [current?, outerOpen, further.head?_eq]
            exact further.of_extends sameNodes

/-- Every declaration was opened at some time. -/
theorem exists_opening_of_lt
    (present : id < (grown rule events).size) :
    ∃ earlier kind signature later,
      events = earlier ++ .opens kind signature :: later ∧
        id = (grown rule earlier).size := by
  induction events using List.reverseRecOn with
  | nil =>
      exact absurd present (Nat.not_lt_zero id)
  | append_singleton events event inductionHypothesis =>
      have before
          (inBefore : id < (grown rule events).size) :
          ∃ earlier kind signature later,
            events ++ [event] =
                earlier ++ .opens kind signature :: later ∧
              id = (grown rule earlier).size := by
        obtain ⟨earlier, kind, signature, later, rfl, isSize⟩ :=
          inductionHypothesis inBefore
        exact ⟨earlier, kind, signature, later ++ [event], by simp,
          isSize⟩
      rw [grown_append_singleton] at present
      cases event with
      | closes =>
          exact before present
      | opens kind signature =>
          rw [after, size_openNode] at present
          rcases Nat.lt_succ_iff_lt_or_eq.mp present with
              inBefore | isNew
          · exact before inBefore
          · exact ⟨events, kind, signature, [], rfl, isNew⟩

end Grown

/-- Whatever follows its opening, the qualified name of a declaration joins the
full names of the contributing ones among the declarations that were open when
it was opened, outermost first, and its own full name.  Climbing from it finds
all of these and ends behind the outermost one.  What was never opened has no
qualified name. -/
theorem qualifiedName_fixed_when_opened
    (rule : NestingRule)
    (events : List Event) :
    let forest := grown rule events
    (∀ earlier kind signature later,
      events = earlier ++ .opens kind signature :: later →
        let opening := grown rule earlier
        (∃ children,
          forest.node? opening.size =
            some ⟨kind, signature, opening.current?, children⟩) ∧
          forest.Ascends opening.current? opening.scope ∧
          forest.qualifiedName? opening.size =
            some (".".intercalate
              (opening.scope.reverse.filterMap opening.contribution? ++
                [signature.fullName]))) ∧
      ∀ id,
        (forest.qualifiedName? id).isSome ↔
          ∃ earlier kind signature later,
            events = earlier ++ .opens kind signature :: later ∧
              id = (grown rule earlier).size := by
  intro forest
  refine ⟨?_, ?_⟩
  · rintro earlier kind signature later rfl opening
    have grows : forest.Extends opening :=
      extends_grown_append (.opens kind signature :: later)
    have ascends : opening.Ascends opening.current? opening.scope :=
      ascends_scope_grown
    obtain ⟨children, found⟩ :=
      @exists_node?_of_opening rule earlier kind signature later
    have sameNames :
        opening.scope.reverse.filterMap forest.contribution? =
          opening.scope.reverse.filterMap opening.contribution? := by
      apply List.filterMap_congr
      intro id isOpen
      exact contribution?_eq_of_extends grows
        (ascends.lt_size id (List.mem_reverse.mp isOpen))
    have linked : forest.Linked := .grown rule _
    have ascendsLater := ascends.of_extends grows
    have short :=
      linked.length_le_of_ascends ascendsLater fun _ isOpen =>
        linked.parent_lt_size found isOpen
    have named := qualifiedName?_of_ascends found ascendsLater short
    rw [sameNames] at named
    exact ⟨⟨children, found⟩, ascendsLater, named⟩
  · intro id
    constructor
    · intro isNamed
      rw [qualifiedName?, segments?, Option.isSome_map,
        Option.isSome_map] at isNamed
      obtain ⟨node, found⟩ := Option.isSome_iff_exists.mp isNamed
      exact exists_opening_of_lt (lt_size_of_node? found)
    · rintro ⟨earlier, kind, signature, later, rfl, rfl⟩
      obtain ⟨children, found⟩ :=
        @exists_node?_of_opening rule earlier kind signature later
      rw [qualifiedName?, segments?, found]
      rfl

/-- A field that is opened in a structure in a namespace keeps the name that it
has there when all three are closed and a class is opened, and its name has the
structure in it under the symmetric rule alone. -/
theorem qualifiedName_kept_behind_closing :
    let earlier : List Event :=
      [.opens .namespaceScope ⟨"Maps", none, "Maps", none⟩,
        .opens .structureType ⟨"Grid", none, "Grid", none⟩]
    let later : List Event :=
      [.closes, .closes, .closes,
        .opens .classType ⟨"Chart", none, "Chart", none⟩]
    let events :=
      earlier ++ .opens .field ⟨"Cell", none, "Cell", none⟩ :: later
    (grown .legacy events).qualifiedName? 2 = some "Maps.Cell" ∧
      (grown .symmetric events).qualifiedName? 2 =
        some "Maps.Grid.Cell" ∧
      (grown .legacy events).Ascends (some 1) [1, 0] := by
  intro earlier later events
  have opened
      (rule : NestingRule) :=
    (qualifiedName_fixed_when_opened rule events).1 earlier _ _ later rfl
  obtain ⟨-, ascends, legacyName⟩ := opened .legacy
  obtain ⟨-, -, symmetricName⟩ := opened .symmetric
  exact ⟨legacyName.trans (by decide +kernel),
    symmetricName.trans (by decide +kernel), ascends⟩

end ApiIndex.Forest

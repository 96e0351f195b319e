import ApiIndex.Proofs.Forest.Growth
import Mathlib.Data.List.Chain
import Mathlib.Data.List.Nodup

namespace ApiIndex.Forest

/-!
# Forests in pre-order

Only the rightmost path of a grown forest is ever open, and what is opened is
added at its end.  Visiting a grown forest in pre-order therefore meets the
declarations in the order in which they were opened, and everything that the
forest lists is listed once and in order.
-/

/-- Visiting listed declarations in pre-order: each one, then what is nested in
it, then the rest of the list. -/
inductive Visits
    (forest : Forest) :
    List NodeId →
      List NodeId →
      Prop where
  | nil :
      Visits forest [] []
  | cons
      {id : NodeId}
      {listed below behind : List NodeId}
      (nested : Visits forest (forest.children id) below)
      (rest : Visits forest listed behind) :
      Visits forest (id :: listed) (id :: below ++ behind)

/-- A path, outermost first, that leads to the last listed declaration, then to
the last of its children, and so on, and may end anywhere. -/
inductive Rightmost
    (forest : Forest) :
    List NodeId →
      List NodeId →
      Prop where
  | nil
      {listed : List NodeId} :
      Rightmost forest listed []
  | cons
      {front path : List NodeId}
      {id : NodeId}
      (deeper : Rightmost forest (forest.children id) path) :
      Rightmost forest (front ++ [id]) (id :: path)

variable
  {forest later : Forest}
  {listed order path : List NodeId}
  {id : NodeId}

namespace Visits

/-- There is one way to visit a list. -/
theorem unique
    {other : List NodeId}
    (visits : forest.Visits listed order)
    (otherVisits : forest.Visits listed other) :
    order = other := by
  induction visits generalizing other with
  | nil =>
      cases otherVisits
      rfl
  | cons nested rest nestedHypothesis restHypothesis =>
      cases otherVisits with
      | cons otherNested otherRest =>
          rw [nestedHypothesis otherNested, restHypothesis otherRest]

/-- What is listed is visited in the order of the list. -/
theorem sublist
    (visits : forest.Visits listed order) :
    listed.Sublist order := by
  induction visits with
  | nil =>
      exact .slnil
  | cons nested rest _ restHypothesis =>
      exact (restHypothesis.trans
        (List.sublist_append_right _ _)).cons_cons _

/-- The children of what is visited are visited in their order. -/
theorem children_sublist
    (visits : forest.Visits listed order)
    (visited : id ∈ order) :
    (forest.children id).Sublist order := by
  induction visits with
  | nil =>
      cases visited
  | @cons first listed below behind nested rest nestedHypothesis
      restHypothesis =>
      have inBelow := List.sublist_append_left below behind
      have inBehind := List.sublist_append_right below behind
      rw [List.cons_append, List.mem_cons, List.mem_append] at visited
      rcases visited with rfl | isBelow | isBehind
      · exact (nested.sublist.trans inBelow).cons _
      · exact ((nestedHypothesis isBelow).trans inBelow).cons _
      · exact ((restHypothesis isBehind).trans inBehind).cons _

/-- What is visited is what is listed and the children of what is visited, each
as often as it is visited. -/
theorem perm
    (visits : forest.Visits listed order) :
    order.Perm (listed ++ order.flatMap forest.children) := by
  induction visits with
  | nil =>
      exact .nil
  | @cons first listed below behind nested rest nestedHypothesis
      restHypothesis =>
      refine .cons first ?_
      have regrouped :=
        List.perm_append_comm_assoc
          (forest.children first ++ below.flatMap forest.children)
          listed (behind.flatMap forest.children)
      simpa using (nestedHypothesis.append restHypothesis).trans regrouped

/-- Visiting depends only on the children of what is visited. -/
theorem congr
    (visits : forest.Visits listed order)
    (sameChildren :
      ∀ id ∈ order, later.children id = forest.children id) :
    later.Visits listed order := by
  induction visits with
  | nil =>
      exact .nil
  | @cons first listed below behind nested rest nestedHypothesis
      restHypothesis =>
      refine .cons ?_ (restHypothesis ?_)
      · rw [sameChildren first (by simp)]
        apply nestedHypothesis
        intro id isBelow
        exact sameChildren id (by simp [isBelow])
      · intro id isBehind
        exact sameChildren id (by simp [isBehind])

theorem append
    {more moreOrder : List NodeId}
    (visits : forest.Visits listed order)
    (moreVisits : forest.Visits more moreOrder) :
    forest.Visits (listed ++ more) (order ++ moreOrder) := by
  induction visits with
  | nil =>
      exact moreVisits
  | cons nested rest _ restHypothesis =>
      simpa using Visits.cons nested restHypothesis

theorem singleton
    {below : List NodeId}
    (nested : forest.Visits (forest.children id) below) :
    forest.Visits [id] (id :: below) := by
  simpa using Visits.cons nested .nil

/-- A last listed declaration is visited last, together with what is nested in
it. -/
theorem exists_of_append_singleton
    {front : List NodeId}
    (visits : forest.Visits (front ++ [id]) order) :
    ∃ before below,
      order = before ++ id :: below ∧
        forest.Visits front before ∧
        forest.Visits (forest.children id) below := by
  induction front generalizing order with
  | nil =>
      cases visits with
      | cons nested rest =>
          cases rest
          exact ⟨[], _, by simp, .nil, nested⟩
  | cons first front inductionHypothesis =>
      cases visits with
      | cons nested rest =>
          obtain ⟨before, below, rfl, frontVisits, lastNested⟩ :=
            inductionHypothesis rest
          exact ⟨_, below, by simp, .cons nested frontVisits, lastNested⟩

end Visits

namespace Rightmost

/-- A rightmost path leads through what is visited. -/
theorem mem_order
    (rightmost : forest.Rightmost listed path)
    (visits : forest.Visits listed order) :
    ∀ id ∈ path, id ∈ order := by
  induction rightmost generalizing order with
  | nil =>
      simp
  | cons deeper inductionHypothesis =>
      obtain ⟨before, below, rfl, -, nested⟩ :=
        visits.exists_of_append_singleton
      intro id onPath
      rcases List.mem_cons.mp onPath with rfl | isDeeper
      · simp
      · simp [inductionHypothesis nested id isDeeper]

theorem of_append
    {more : List NodeId}
    (rightmost : forest.Rightmost listed (path ++ more)) :
    forest.Rightmost listed path := by
  induction path generalizing listed with
  | nil =>
      exact .nil
  | cons first path inductionHypothesis =>
      cases rightmost with
      | cons deeper =>
          exact .cons (inductionHypothesis deeper)

theorem congr
    (rightmost : forest.Rightmost listed path)
    (sameChildren :
      ∀ id ∈ path, later.children id = forest.children id) :
    later.Rightmost listed path := by
  induction rightmost with
  | nil =>
      exact .nil
  | @cons front path first deeper inductionHypothesis =>
      rw [List.forall_mem_cons] at sameChildren
      refine .cons ?_
      rw [sameChildren.1]
      exact inductionHypothesis sameChildren.2

/-- A declaration that is added to the children of the end of a rightmost path
is visited last, and the path goes on to it. -/
theorem extend
    {last new : NodeId}
    (rightmost : forest.Rightmost listed (path ++ [last]))
    (visits : forest.Visits listed order)
    (noneTwice : order.Nodup)
    (sameChildren :
      ∀ id, id ≠ last → later.children id = forest.children id)
    (lastChildren :
      later.children last = forest.children last ++ [new])
    (newChildren : later.children new = []) :
    later.Visits listed (order ++ [new]) ∧
      later.Rightmost listed (path ++ [last, new]) := by
  have same
      {visited : List NodeId}
      (notLast : last ∉ visited) :
      ∀ id ∈ visited, later.children id = forest.children id :=
    fun id member =>
      sameChildren id fun isLast => notLast (isLast ▸ member)
  induction path generalizing listed order with
  | nil =>
      cases rightmost with
      | cons _ =>
          obtain ⟨before, below, rfl, frontVisits, nested⟩ :=
            visits.exists_of_append_singleton
          rw [List.nodup_middle, List.nodup_cons,
            List.mem_append] at noneTwice
          obtain ⟨⟨notBefore, notBelow⟩, -⟩ :=
            And.imp_left not_or.mp noneTwice
          have newVisits : later.Visits [new] [new] := by
            apply Visits.singleton
            rw [newChildren]
            exact .nil
          have nestedLater :=
            (nested.congr (same notBelow)).append newVisits
          rw [← lastChildren] at nestedLater
          refine ⟨?_, .cons ?_⟩
          · simpa using
              (frontVisits.congr (same notBefore)).append
                (.singleton nestedLater)
          · rw [lastChildren]
            exact .cons .nil
  | cons first path inductionHypothesis =>
      cases rightmost with
      | cons deeper =>
          obtain ⟨before, below, rfl, frontVisits, nested⟩ :=
            visits.exists_of_append_singleton
          have lastBelow : last ∈ below :=
            deeper.mem_order nested last (by simp)
          rw [List.nodup_append, List.nodup_cons] at noneTwice
          obtain ⟨-, ⟨firstNotBelow, belowOnce⟩, apart⟩ := noneTwice
          have notBefore : last ∉ before := fun isBefore =>
            apart last isBefore last
              (List.mem_cons_of_mem _ lastBelow) rfl
          have notFirst : first ≠ last := fun isLast =>
            firstNotBelow (isLast ▸ lastBelow)
          obtain ⟨nestedLater, deeperLater⟩ :=
            inductionHypothesis deeper nested belowOnce
          rw [← sameChildren first notFirst] at nestedLater deeperLater
          refine ⟨?_, .cons deeperLater⟩
          simpa using
            (frontVisits.congr (same notBefore)).append
              (.singleton nestedLater)

end Rightmost

/-- A forest whose declarations are numbered in pre-order and of which only the
rightmost path is open. -/
structure InPreorder
    (forest : Forest) : Prop where
  linked : forest.Linked
  visits : forest.Visits forest.roots (List.range forest.size)
  rightmost : forest.Rightmost forest.roots forest.scope.reverse

namespace InPreorder

theorem empty
    (rule : NestingRule) :
    InPreorder { rule := rule } where
  linked := .empty rule
  visits := .nil
  rightmost := .nil

/-- What is opened is visited last and ends the open path. -/
theorem visits_and_rightmost_openNode
    (inPreorder : forest.InPreorder)
    (kind : Kind)
    (signature : Signature) :
    let opened := forest.openNode kind signature
    opened.Visits opened.roots
        (List.range forest.size ++ [forest.size]) ∧
      opened.Rightmost opened.roots
        (forest.scope.reverse ++ [forest.size]) := by
  intro opened
  have visits := inPreorder.visits
  have rightmost := inPreorder.rightmost
  have open_lt := inPreorder.linked.open_lt
  have newChildren : opened.children forest.size = [] :=
    children_openNode_size forest kind signature
  cases shape : forest.scope with
  | nil =>
      obtain ⟨roots, sameChildren⟩ :=
        links_openNode_of_closed kind signature open_lt shape
      have newVisits : opened.Visits [forest.size] [forest.size] := by
        apply Visits.singleton
        rw [newChildren]
        exact .nil
      have oldVisits := visits.congr fun id _ => sameChildren id
      rw [roots]
      exact ⟨oldVisits.append newVisits, .cons .nil⟩
  | cons innermost outer =>
      obtain ⟨roots, sameChildren, innermostChildren⟩ :=
        links_openNode_of_open kind signature open_lt shape
      rw [shape, List.reverse_cons] at rightmost
      rw [roots, List.reverse_cons, List.append_assoc]
      exact rightmost.extend visits List.nodup_range sameChildren
        innermostChildren newChildren

theorem openNode
    (inPreorder : forest.InPreorder)
    (kind : Kind)
    (signature : Signature) :
    (forest.openNode kind signature).InPreorder where
  linked := inPreorder.linked.openNode kind signature
  visits := by
    rw [size_openNode, List.range_succ]
    exact (inPreorder.visits_and_rightmost_openNode kind signature).1
  rightmost := by
    rw [scope_openNode, List.reverse_cons]
    exact (inPreorder.visits_and_rightmost_openNode kind signature).2

theorem closeNode
    (inPreorder : forest.InPreorder) :
    forest.closeNode.InPreorder where
  linked := inPreorder.linked.closeNode
  visits := inPreorder.visits.congr fun _ _ => rfl
  rightmost := by
    have rightmost := inPreorder.rightmost
    rw [Forest.closeNode]
    cases shape : forest.scope with
    | nil =>
        exact .nil
    | cons innermost outer =>
        rw [shape, List.reverse_cons] at rightmost
        exact rightmost.of_append.congr fun _ _ => rfl

theorem grown
    (rule : NestingRule)
    (events : List Event) :
    (Forest.grown rule events).InPreorder :=
  grown_induction (.empty rule)
    (fun _ kind signature inPreorder =>
      inPreorder.openNode kind signature)
    (fun _ inPreorder => inPreorder.closeNode)

end InPreorder

/-- What the redundant links of a forest say together. -/
structure WellFormed
    (forest : Forest) : Prop where
  /-- A parent is opened before its children. -/
  parent_lt :
    ∀ id parent, forest.parent? id = some parent → parent < id
  /-- All declarations are listed, as roots or as children, and each once. -/
  listed_once :
    (forest.roots ++ forest.nodes.flatMap (·.children)).Perm
      (List.range forest.size)
  /-- Its parent, if it has one, lists a declaration. -/
  mem_children_iff :
    ∀ id parent,
      id ∈ forest.children parent ↔ forest.parent? id = some parent
  /-- A declaration without a parent is a root. -/
  mem_roots_iff :
    ∀ id,
      id ∈ forest.roots ↔
        id < forest.size ∧ forest.parent? id = none
  roots_ordered :
    forest.roots.Pairwise (· < ·)
  children_ordered :
    ∀ id, (forest.children id).Pairwise (· < ·)
  /-- The open declarations, outermost first, are nested in each other. -/
  chain :
    forest.scope.reverse.IsChain fun outer inner =>
      forest.parent? inner = some outer
  /-- The outermost open declaration is a root. -/
  chain_start :
    ∀ id, forest.scope.reverse.head? = some id → id ∈ forest.roots
  /-- Visiting the roots in pre-order meets the declarations by number. -/
  preorder :
    ∀ order,
      forest.Visits forest.roots order ↔
        order = List.range forest.size

/-- The children of all declarations, one declaration after the other. -/
theorem flatMap_children
    (forest : Forest) :
    (List.range forest.size).flatMap forest.children =
      forest.nodes.flatMap (·.children) := by
  rw [List.flatMap_def, List.flatMap_def]
  refine congrArg List.flatten (List.ext_getElem ?_ ?_)
  · simp [size]
  · intro id inRange inNodes
    simp only [List.length_map] at inNodes
    rw [List.getElem_map, List.getElem_map, List.getElem_range]
    exact children_of_node? (List.getElem?_eq_getElem inNodes)

/-- A path to the last of the listed declarations leads from parent to child. -/
theorem Linked.isChain_of_rightmost
    (linked : forest.Linked)
    (rightmost : forest.Rightmost listed path) :
    (path.IsChain fun outer inner =>
        forest.parent? inner = some outer) ∧
      ∀ id, path.head? = some id → id ∈ listed := by
  induction rightmost with
  | nil =>
      exact ⟨.nil, by simp⟩
  | @cons front path first deeper inductionHypothesis =>
      obtain ⟨chain, start⟩ := inductionHypothesis
      refine ⟨List.isChain_cons.mpr ⟨?_, chain⟩, ?_⟩
      · intro id isNext
        exact (linked.mem_children_iff id first).mp (start id isNext)
      · simp

theorem Linked.mem_roots_iff
    (linked : forest.Linked)
    (id : NodeId) :
    id ∈ forest.roots ↔
      id < forest.size ∧ forest.parent? id = none := by
  rw [linked.roots id]
  cases found : forest.node? id with
  | none =>
      have beyond : forest.size ≤ id :=
        List.getElem?_eq_none_iff.mp found
      simp [beyond]
  | some node =>
      simp [lt_size_of_node? found, parent?_of_node? found]

/-- Whatever is opened and closed, in whatever order, gives a forest of what was
opened, whose links agree and whose declarations are numbered in pre-order. -/
theorem wellFormed_grown
    (rule : NestingRule)
    (events : List Event) :
    (grown rule events).WellFormed ∧
      (grown rule events).declared =
        events.filterMap Event.declared? := by
  obtain ⟨linked, visits, rightmost⟩ := InPreorder.grown rule events
  obtain ⟨chain, start⟩ := linked.isChain_of_rightmost rightmost
  have ascending := List.pairwise_lt_range (n := (grown rule events).size)
  refine ⟨?_, declared_grown rule events⟩
  exact {
    parent_lt := linked.parent_lt
    listed_once := by
      rw [← flatMap_children]
      exact visits.perm.symm
    mem_children_iff := linked.mem_children_iff
    mem_roots_iff := linked.mem_roots_iff
    roots_ordered := ascending.sublist visits.sublist
    children_ordered := by
      intro id
      rcases Nat.lt_or_ge id (grown rule events).size with
          present | beyond
      · exact ascending.sublist
          (visits.children_sublist (List.mem_range.mpr present))
      · rw [children_of_size_le beyond]
        exact .nil
    chain := chain
    chain_start := start
    preorder := by
      intro order
      constructor
      · exact fun otherVisits => otherVisits.unique visits
      · rintro rfl
        exact visits
  }

end ApiIndex.Forest

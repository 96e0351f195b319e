import ApiIndex.Proofs.Forest
import Mathlib.Data.List.Induction

namespace ApiIndex.Forest

/-!
# Forests grown by opening and closing

A forest is grown by opening declarations and closing them again, in any order
and any number.  It has the declarations that were opened, in that order, and
their links fit together: a declaration is a child of exactly its parent, and
its parent was opened before it.
-/

/-- One turn in the growth of a forest. -/
inductive Event where
  | opens (kind : Kind) (signature : Signature)
  | closes
  deriving Repr, DecidableEq

/-- The forest after one more event. -/
def after
    (forest : Forest) :
    Event →
      Forest
  | .opens kind signature =>
      forest.openNode kind signature
  | .closes =>
      forest.closeNode

/-- The forest that events grow out of an empty one. -/
def grown
    (rule : NestingRule)
    (events : List Event) :
    Forest :=
  events.foldl after { rule := rule }

theorem grown_append_singleton
    (rule : NestingRule)
    (events : List Event)
    (event : Event) :
    grown rule (events ++ [event]) =
      (grown rule events).after event := by
  rw [grown, List.foldl_append]
  rfl

/-- What opening and closing keep holds of every grown forest. -/
theorem grown_induction
    {holds : Forest → Prop}
    {rule : NestingRule}
    {events : List Event}
    (empty : holds { rule := rule })
    (openNode :
      ∀ forest kind signature,
        holds forest → holds (forest.openNode kind signature))
    (closeNode : ∀ forest, holds forest → holds forest.closeNode) :
    holds (grown rule events) := by
  refine List.foldlRecOn events after empty ?_
  intro forest inductionHypothesis event _
  cases event with
  | opens kind signature =>
      exact openNode forest kind signature inductionHypothesis
  | closes =>
      exact closeNode forest inductionHypothesis

@[simp] theorem rule_grown
    (rule : NestingRule)
    (events : List Event) :
    (grown rule events).rule = rule := by
  apply @grown_induction fun forest => forest.rule = rule
  · rfl
  · intro forest kind signature sameRule
    rw [rule_openNode, sameRule]
  · intro forest sameRule
    exact sameRule

section Declared

/-- What an event declares. -/
def Event.declared? : Event → Option (Kind × Signature)
  | .opens kind signature =>
      some (kind, signature)
  | .closes =>
      none

/-- The kinds and signatures of the declarations of a forest, in order. -/
def declared
    (forest : Forest) :
    List (Kind × Signature) :=
  forest.nodes.map fun node => (node.kind, node.signature)

theorem declared_openNode
    (forest : Forest)
    (kind : Kind)
    (signature : Signature) :
    (forest.openNode kind signature).declared =
      forest.declared ++ [(kind, signature)] := by
  unfold openNode
  split
  · next parent isOpen =>
      simp only [declared, List.map_append, List.map_singleton]
      congr 1
      apply List.ext_getElem
      · simp
      · intro position inModified inNodes
        simp only [List.getElem_map, List.getElem_modify]
        split <;> rfl
  · simp [declared]

/-- The declarations of a grown forest are those that were opened, in order. -/
theorem declared_grown
    (rule : NestingRule)
    (events : List Event) :
    (grown rule events).declared = events.filterMap Event.declared? := by
  induction events using List.reverseRecOn with
  | nil =>
      rfl
  | append_singleton events event inductionHypothesis =>
      rw [List.filterMap_append, ← inductionHypothesis,
        grown_append_singleton]
      cases event with
      | opens kind signature =>
          exact declared_openNode _ kind signature
      | closes =>
          exact (List.append_nil _).symm

end Declared

section Links

variable {forest : Forest} {id parent : NodeId}

theorem parent?_of_node?
    {node : Node}
    (found : forest.node? id = some node) :
    forest.parent? id = node.parent := by
  rw [parent?, found, Option.bind_some]

theorem lt_size_of_parent?
    (isParent : forest.parent? id = some parent) :
    id < forest.size := by
  obtain ⟨node, found, -⟩ := Option.bind_eq_some_iff.mp isParent
  exact lt_size_of_node? found

theorem children_of_node?
    {node : Node}
    (found : forest.node? id = some node) :
    forest.children id = node.children := by
  rw [children, found]

theorem children_of_size_le
    (beyond : forest.size ≤ id) :
    forest.children id = [] := by
  rw [children, node?, List.getElem?_eq_none beyond]

/-- How the links between the declarations of a forest fit together. -/
structure Linked
    (forest : Forest) : Prop where
  /-- Only what has been opened is open. -/
  open_lt :
    ∀ id ∈ forest.scope, id < forest.size
  /-- A parent is opened before its children. -/
  parent_lt :
    ∀ id parent, forest.parent? id = some parent → parent < id
  /-- A declaration is listed as a child by its parent and by no other. -/
  mem_children_iff :
    ∀ id parent,
      id ∈ forest.children parent ↔ forest.parent? id = some parent
  /-- The roots are the declarations without a parent. -/
  roots : forest.RootsExact

theorem parent?_openNode
    (forest : Forest)
    (kind : Kind)
    (signature : Signature)
    (id : NodeId) :
    (forest.openNode kind signature).parent? id =
      if id = forest.size then forest.current? else forest.parent? id := by
  have joined
      (other : Forest) :
      other.parent? id = ((other.node? id).map (·.parent)).join := by
    rw [parent?]
    cases other.node? id <;> rfl
  rw [joined, joined, parent_openNode]
  split <;> rfl

/-- Opening a declaration adds it to the children of the innermost open one
and to no others. -/
theorem children_openNode
    (kind : Kind)
    (signature : Signature)
    (open_lt : ∀ id ∈ forest.scope, id < forest.size)
    (id : NodeId) :
    (forest.openNode kind signature).children id =
      if forest.current? = some id then
        forest.children id ++ [forest.size]
      else
        forest.children id := by
  have notOpen
      (beyond : forest.size ≤ id) :
      forest.current? ≠ some id := by
    intro isOpen
    exact Nat.not_lt.mpr beyond
      (open_lt id (List.mem_of_mem_head? isOpen))
  rcases Nat.lt_trichotomy id forest.size with present | rfl | beyond
  · obtain ⟨node, found⟩ := exists_node?_of_lt present
    have afterwards := node?_openNode_of_lt forest kind signature present
    rw [found, Option.map_some] at afterwards
    rw [children_of_node? afterwards, children_of_node? found]
    split <;> rfl
  · rw [if_neg (notOpen (Nat.le_refl _)),
      children_of_size_le (Nat.le_refl _),
      children_of_node? (node?_openNode_size forest kind signature)]
  · rw [if_neg (notOpen (Nat.le_of_lt beyond)),
      children_of_size_le (Nat.le_of_lt beyond),
      children_of_size_le (by rwa [size_openNode])]

theorem children_openNode_size
    (forest : Forest)
    (kind : Kind)
    (signature : Signature) :
    (forest.openNode kind signature).children forest.size = [] :=
  children_of_node? (node?_openNode_size forest kind signature)

/-- What is opened while nothing is open becomes the last root. -/
theorem links_openNode_of_closed
    (kind : Kind)
    (signature : Signature)
    (open_lt : ∀ id ∈ forest.scope, id < forest.size)
    (shape : forest.scope = []) :
    let opened := forest.openNode kind signature
    opened.roots = forest.roots ++ [forest.size] ∧
      ∀ id, opened.children id = forest.children id := by
  have noneOpen : forest.current? = none := by
    rw [current?, shape, List.head?_nil]
  refine ⟨?_, fun id => ?_⟩
  · rw [roots_openNode, noneOpen]
  · rw [children_openNode kind signature open_lt, noneOpen,
      if_neg (by simp)]

/-- What is opened inside a declaration becomes its last child. -/
theorem links_openNode_of_open
    {innermost : NodeId}
    {outer : List NodeId}
    (kind : Kind)
    (signature : Signature)
    (open_lt : ∀ id ∈ forest.scope, id < forest.size)
    (shape : forest.scope = innermost :: outer) :
    let opened := forest.openNode kind signature
    opened.roots = forest.roots ∧
      (∀ id, id ≠ innermost →
        opened.children id = forest.children id) ∧
      opened.children innermost =
        forest.children innermost ++ [forest.size] := by
  have isOpen : forest.current? = some innermost := by
    rw [current?, shape, List.head?_cons]
  refine ⟨?_, fun id different => ?_, ?_⟩
  · rw [roots_openNode, isOpen]
  · rw [children_openNode kind signature open_lt, isOpen, if_neg]
    simpa using Ne.symm different
  · rw [children_openNode kind signature open_lt, isOpen, if_pos rfl]

namespace Linked

theorem empty
    (rule : NestingRule) :
    Linked { rule := rule } where
  open_lt := by
    simp
  parent_lt := by
    simp [parent?, node?]
  mem_children_iff := by
    simp [children, parent?, node?]
  roots := by
    simp [RootsExact, node?]

theorem parent_lt_of_node?
    {node : Node}
    (linked : forest.Linked)
    (found : forest.node? id = some node)
    (isParent : node.parent = some parent) :
    parent < id :=
  linked.parent_lt id parent ((parent?_of_node? found).trans isParent)

theorem current_lt
    (linked : forest.Linked)
    (isOpen : forest.current? = some id) :
    id < forest.size :=
  linked.open_lt id (List.mem_of_mem_head? isOpen)

theorem openNode
    (linked : forest.Linked)
    (kind : Kind)
    (signature : Signature) :
    (forest.openNode kind signature).Linked where
  open_lt := by
    intro id isOpen
    rw [scope_openNode] at isOpen
    rw [size_openNode]
    rcases List.mem_cons.mp isOpen with rfl | wasOpen
    · exact Nat.lt_succ_self _
    · exact Nat.lt_succ_of_lt (linked.open_lt id wasOpen)
  parent_lt := by
    intro id parent isParent
    rw [parent?_openNode] at isParent
    split at isParent
    · next isNew =>
        rw [isNew]
        exact linked.current_lt isParent
    · exact linked.parent_lt id parent isParent
  mem_children_iff := by
    intro id parent
    have notLinked : forest.parent? forest.size ≠ some parent :=
      fun isParent => Nat.lt_irrefl _ (lt_size_of_parent? isParent)
    rw [children_openNode kind signature linked.open_lt,
      parent?_openNode]
    by_cases isNew : id = forest.size
    · rw [if_pos isNew, isNew]
      split
      · next isOpen =>
          simp [isOpen]
      · next notOpen =>
          rw [linked.mem_children_iff]
          simp [notLinked, notOpen]
    · rw [if_neg isNew, ← linked.mem_children_iff]
      split <;> simp [isNew]
  roots := linked.roots.openNode kind signature

/-- The links do not depend on which declarations are still open. -/
theorem of_scope_subset
    {scope : List NodeId}
    (linked : forest.Linked)
    (fewer : scope ⊆ forest.scope) :
    Linked { forest with scope := scope } where
  open_lt := fun id isOpen => linked.open_lt id (fewer isOpen)
  parent_lt := linked.parent_lt
  mem_children_iff := linked.mem_children_iff
  roots := linked.roots

theorem closeNode
    (linked : forest.Linked) :
    forest.closeNode.Linked :=
  linked.of_scope_subset fun _ isOpen => List.mem_of_mem_tail isOpen

theorem grown
    (rule : NestingRule)
    (events : List Event) :
    (Forest.grown rule events).Linked :=
  grown_induction (.empty rule)
    (fun _ kind signature linked => linked.openNode kind signature)
    (fun _ linked => linked.closeNode)

end Linked

end Links

end ApiIndex.Forest

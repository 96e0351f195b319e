import ApiIndex.Forest

namespace ApiIndex.Forest

/-!
# What opening a declaration changes

Opening appends one declaration, whose identifier is the size of the forest
before, and makes it the innermost open one.  The declarations that were there
keep their kind, signature and parent; the innermost open one among them gets a
child.
-/

variable (forest : Forest) (kind : Kind) (signature : Signature)

@[simp] theorem scope_openNode :
    (forest.openNode kind signature).scope =
      forest.size :: forest.scope := by
  unfold openNode
  split <;> rfl

@[simp] theorem rule_openNode :
    (forest.openNode kind signature).rule = forest.rule := by
  unfold openNode
  split <;> rfl

@[simp] theorem size_openNode :
    (forest.openNode kind signature).size = forest.size + 1 := by
  unfold openNode
  split <;> simp [size]

theorem roots_openNode :
    (forest.openNode kind signature).roots =
      match forest.current? with
      | some _ =>
          forest.roots
      | none =>
          forest.roots ++ [forest.size] := by
  unfold openNode
  split <;> simp [*]

@[simp] theorem node?_openNode_size :
    (forest.openNode kind signature).node? forest.size =
      some ⟨kind, signature, forest.current?, []⟩ := by
  unfold openNode
  split <;> simp [node?, size, *]

theorem exists_qualifiedName?_openNode :
    ∃ name,
      (forest.openNode kind signature).qualifiedName? forest.size =
        some name :=
  ⟨_, by
    rw [qualifiedName?, segments?, node?_openNode_size]
    rfl⟩

theorem node?_openNode_of_lt
    {id : NodeId}
    (present : id < forest.size) :
    (forest.openNode kind signature).node? id =
      (forest.node? id).map fun node =>
        if forest.current? = some id then
          node.addChild forest.size
        else
          node := by
  have inBounds : id < forest.nodes.length := present
  unfold openNode
  split
  · next parent isOpen =>
      simp only [node?, isOpen, Option.some.injEq]
      rw [List.getElem?_append_left (by simpa using inBounds),
        List.getElem?_modify]
      rfl
  · next noneOpen =>
      simp only [node?, noneOpen, reduceCtorEq, ↓reduceIte]
      rw [List.getElem?_append_left inBounds]
      simp

theorem lt_size_of_node?
    {forest : Forest}
    {id : NodeId}
    {node : Node}
    (found : forest.node? id = some node) :
    id < forest.size :=
  (List.getElem?_eq_some_iff.mp found).1

theorem exists_node?_of_lt
    {forest : Forest}
    {id : NodeId}
    (present : id < forest.size) :
    ∃ node, forest.node? id = some node :=
  ⟨_, List.getElem?_eq_getElem present⟩

/-- Opening a declaration keeps the kind, the signature and the parent of every
other one. -/
theorem exists_node?_openNode
    {id : NodeId}
    {node : Node}
    (found : forest.node? id = some node) :
    ∃ children,
      (forest.openNode kind signature).node? id =
        some ⟨node.kind, node.signature, node.parent, children⟩ := by
  rw [node?_openNode_of_lt forest kind signature (lt_size_of_node? found),
    found]
  by_cases isCurrent : forest.current? = some id
  · exact ⟨node.children ++ [forest.size], by simp [isCurrent, Node.addChild]⟩
  · exact ⟨node.children, by simp [isCurrent]⟩

theorem parent_openNode
    (id : NodeId) :
    ((forest.openNode kind signature).node? id).map (·.parent) =
      if id = forest.size then
        some forest.current?
      else
        (forest.node? id).map (·.parent) := by
  rcases Nat.lt_trichotomy id forest.size with present | rfl | beyond
  · rw [node?_openNode_of_lt forest kind signature present,
      ite_cond_eq_false _ _ (by simp [Nat.ne_of_lt present]),
      Option.map_map]
    refine congrFun (congrArg Option.map (funext fun node => ?_)) _
    by_cases isCurrent : forest.current? = some id <;>
      simp [isCurrent, Node.addChild]
  · simp
  · have outside : forest.node? id = none :=
      List.getElem?_eq_none (Nat.le_of_lt beyond)
    have stillOutside :
        (forest.openNode kind signature).node? id = none := by
      apply List.getElem?_eq_none
      change (forest.openNode kind signature).size ≤ id
      rw [size_openNode]
      exact beyond
    simp [outside, stillOutside, Nat.ne_of_gt beyond]

/-- The roots are the declarations without a parent. -/
def RootsExact
    (forest : Forest) :
    Prop :=
  ∀ id, id ∈ forest.roots ↔
    (forest.node? id).map (·.parent) = some none

theorem RootsExact.openNode
    {forest : Forest}
    (rooted : forest.RootsExact)
    (kind : Kind)
    (signature : Signature) :
    (forest.openNode kind signature).RootsExact := by
  intro id
  have noNode : forest.node? forest.size = none :=
    List.getElem?_eq_none (Nat.le_refl _)
  have notRoot : forest.size ∉ forest.roots := by
    simp [rooted forest.size, noNode]
  rw [parent_openNode, roots_openNode]
  by_cases isNew : id = forest.size
  · subst id
    cases current : forest.current? with
    | none =>
        simp
    | some parent =>
        simp [notRoot]
  · cases current : forest.current? with
    | none =>
        simp [isNew, rooted id]
    | some parent =>
        simp [isNew, rooted id]

end ApiIndex.Forest

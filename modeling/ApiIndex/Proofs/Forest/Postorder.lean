import ApiIndex.Proofs.Forest.Preorder

namespace ApiIndex.Forest

/-!
# Forests in post-order

What is open is closed from the inside, behind everything that was closed
before.  Listing a grown forest in post-order therefore meets its declarations in
the order in which they are closed: first those that are closed already, and then
the open ones from the innermost outwards.
-/

/-- Listing declarations in post-order: what is nested in each one, then the
declaration itself, then the rest of the list. -/
inductive Postorder
    (forest : Forest) :
    List NodeId →
      List NodeId →
      Prop where
  | nil :
      Postorder forest [] []
  | cons
      {id : NodeId}
      {listed below behind : List NodeId}
      (nested : Postorder forest (forest.children id) below)
      (rest : Postorder forest listed behind) :
      Postorder forest (id :: listed) (below ++ id :: behind)

variable
  {forest later : Forest}
  {listed order path closed : List NodeId}
  {id : NodeId}

namespace Postorder

/-- There is one way to list declarations in post-order. -/
theorem unique
    {other : List NodeId}
    (postorder : forest.Postorder listed order)
    (otherPostorder : forest.Postorder listed other) :
    order = other := by
  induction postorder generalizing other with
  | nil =>
      cases otherPostorder
      rfl
  | cons nested rest nestedHypothesis restHypothesis =>
      cases otherPostorder with
      | cons otherNested otherRest =>
          rw [nestedHypothesis otherNested, restHypothesis otherRest]

/-- The order depends only on the children of what is listed. -/
theorem congr
    (postorder : forest.Postorder listed order)
    (sameChildren :
      ∀ id ∈ order, later.children id = forest.children id) :
    later.Postorder listed order := by
  induction postorder with
  | nil =>
      exact .nil
  | @cons first listed below behind nested rest nestedHypothesis
      restHypothesis =>
      rw [List.forall_mem_append, List.forall_mem_cons] at sameChildren
      obtain ⟨inBelow, atFirst, inBehind⟩ := sameChildren
      refine .cons ?_ (restHypothesis inBehind)
      rw [atFirst]
      exact nestedHypothesis inBelow

/-- A declaration behind others comes last, behind what is nested in it. -/
theorem append_singleton
    {below : List NodeId}
    (postorder : forest.Postorder listed order)
    (nested : forest.Postorder (forest.children id) below) :
    forest.Postorder (listed ++ [id]) (order ++ (below ++ [id])) := by
  induction postorder with
  | nil =>
      exact .cons nested .nil
  | cons firstNested rest _ restHypothesis =>
      simpa using Postorder.cons firstNested restHypothesis

theorem exists_of_append_singleton
    {front : List NodeId}
    (postorder : forest.Postorder (front ++ [id]) order) :
    ∃ before below,
      order = before ++ (below ++ [id]) ∧
        forest.Postorder front before ∧
        forest.Postorder (forest.children id) below := by
  induction front generalizing order with
  | nil =>
      cases postorder with
      | cons nested rest =>
          cases rest
          exact ⟨[], _, rfl, .nil, nested⟩
  | cons first front inductionHypothesis =>
      cases postorder with
      | cons nested rest =>
          obtain ⟨before, below, rfl, frontOrder, lastNested⟩ :=
            inductionHypothesis rest
          exact ⟨_, below, by simp, .cons nested frontOrder, lastNested⟩

end Postorder

/-- The post-order ends with a rightmost path, from the inside outwards.  A
declaration that is added to the children of the end of the path comes right
before the path. -/
theorem Rightmost.extend_postorder
    {last new : NodeId}
    (rightmost : forest.Rightmost listed (path ++ [last]))
    (postorder : forest.Postorder listed order)
    (noneTwice : order.Nodup)
    (sameChildren :
      ∀ id, id ≠ last → later.children id = forest.children id)
    (lastChildren :
      later.children last = forest.children last ++ [new])
    (newChildren : later.children new = []) :
    ∃ closed,
      order = closed ++ last :: path.reverse ∧
        later.Postorder listed
          (closed ++ new :: last :: path.reverse) := by
  have same
      {within : List NodeId}
      (notLast : last ∉ within) :
      ∀ id ∈ within, later.children id = forest.children id :=
    fun id member =>
      sameChildren id fun isLast => notLast (isLast ▸ member)
  induction path generalizing listed order with
  | nil =>
      cases rightmost with
      | cons _ =>
          obtain ⟨before, below, rfl, frontOrder, nested⟩ :=
            postorder.exists_of_append_singleton
          rw [← List.append_assoc, ← List.concat_eq_append,
            List.nodup_concat, List.mem_append, not_or] at noneTwice
          obtain ⟨⟨notBefore, notBelow⟩, -⟩ := noneTwice
          have newNested : later.Postorder (later.children new) [] := by
            rw [newChildren]
            exact .nil
          have nestedLater :=
            (nested.congr (same notBelow)).append_singleton newNested
          rw [← lastChildren] at nestedLater
          refine ⟨before ++ below, by simp, ?_⟩
          simpa using
            (frontOrder.congr (same notBefore)).append_singleton
              nestedLater
  | cons first path inductionHypothesis =>
      cases rightmost with
      | cons deeper =>
          obtain ⟨before, below, rfl, frontOrder, nested⟩ :=
            postorder.exists_of_append_singleton
          rw [List.nodup_append, ← List.concat_eq_append,
            List.nodup_concat] at noneTwice
          obtain ⟨-, ⟨firstNotBelow, belowOnce⟩, apart⟩ := noneTwice
          obtain ⟨closed, rfl, nestedLater⟩ :=
            inductionHypothesis deeper nested belowOnce
          have notBefore : last ∉ before := fun isBefore =>
            apart last isBefore last (by simp) rfl
          have notFirst : first ≠ last := fun isLast =>
            firstNotBelow (by simp [isLast])
          rw [← sameChildren first notFirst] at nestedLater
          refine ⟨before ++ closed, by simp, ?_⟩
          simpa using
            (frontOrder.congr (same notBefore)).append_singleton
              nestedLater

/-- A forest of which some declarations are closed, in the given order, and the
others are open. -/
structure Closing
    (forest : Forest)
    (closed : List NodeId) : Prop where
  inPreorder : forest.InPreorder
  postorder :
    forest.Postorder forest.roots (closed ++ forest.scope)
  perm : (closed ++ forest.scope).Perm (List.range forest.size)

namespace Closing

theorem empty
    (rule : NestingRule) :
    Closing { rule := rule } [] where
  inPreorder := .empty rule
  postorder := .nil
  perm := .nil

theorem lt_size
    (closing : forest.Closing closed) :
    ∀ id ∈ closed ++ forest.scope, id < forest.size :=
  fun _ member => List.mem_range.mp (closing.perm.mem_iff.mp member)

/-- What is opened is closed next, before all that is open around it. -/
theorem postorder_openNode
    (closing : forest.Closing closed)
    (kind : Kind)
    (signature : Signature) :
    let opened := forest.openNode kind signature
    opened.Postorder opened.roots
      (closed ++ forest.size :: forest.scope) := by
  intro opened
  have postorder := closing.postorder
  have rightmost := closing.inPreorder.rightmost
  have open_lt := closing.inPreorder.linked.open_lt
  have noneTwice : (closed ++ forest.scope).Nodup :=
    closing.perm.nodup_iff.mpr List.nodup_range
  have newChildren : opened.children forest.size = [] :=
    children_openNode_size forest kind signature
  cases shape : forest.scope with
  | nil =>
      obtain ⟨roots, sameChildren⟩ :=
        links_openNode_of_closed kind signature open_lt shape
      rw [shape, List.append_nil] at postorder
      have newNested :
          opened.Postorder (opened.children forest.size) [] := by
        rw [newChildren]
        exact .nil
      have oldOrder := postorder.congr fun id _ => sameChildren id
      rw [roots]
      exact oldOrder.append_singleton newNested
  | cons innermost outer =>
      obtain ⟨roots, sameChildren, innermostChildren⟩ :=
        links_openNode_of_open kind signature open_lt shape
      rw [shape] at rightmost postorder noneTwice
      rw [List.reverse_cons] at rightmost
      obtain ⟨before, sameOrder, openedOrder⟩ :=
        rightmost.extend_postorder postorder noneTwice sameChildren
          innermostChildren newChildren
      rw [List.reverse_reverse] at sameOrder openedOrder
      rw [roots, List.append_cancel_right sameOrder]
      exact openedOrder

theorem openNode
    (closing : forest.Closing closed)
    (kind : Kind)
    (signature : Signature) :
    (forest.openNode kind signature).Closing closed where
  inPreorder := closing.inPreorder.openNode kind signature
  postorder := by
    rw [scope_openNode]
    exact closing.postorder_openNode kind signature
  perm := by
    rw [scope_openNode, size_openNode, List.range_succ]
    exact List.perm_middle.trans
      ((closing.perm.cons _).trans (List.perm_append_singleton _ _).symm)

/-- Closing the innermost declarations puts them behind what is closed. -/
theorem close
    {ended remaining : List NodeId}
    (closing : forest.Closing closed)
    (shape : forest.scope = ended ++ remaining) :
    Closing { forest with scope := remaining } (closed ++ ended) := by
  obtain ⟨⟨linked, visits, rightmost⟩, postorder, perm⟩ := closing
  rw [shape, ← List.append_assoc] at postorder perm
  rw [shape, List.reverse_append] at rightmost
  exact {
    inPreorder := {
      linked := linked.of_scope_subset (by simp [shape])
      visits := visits.congr fun _ _ => rfl
      rightmost := rightmost.of_append.congr fun _ _ => rfl
    }
    postorder := postorder.congr fun _ _ => rfl
    perm := perm
  }

end Closing

end ApiIndex.Forest

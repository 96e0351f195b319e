import ApiIndex.Proofs.Forest.Ancestry
import ApiIndex.Reference.Target

namespace ApiIndex.Forest

open Reference (Key)

/-!
# Keys of declarations

A declaration is registered under its kind and its qualified name.  Both are
settled when it is opened, so whether it is the first one with its key is settled
then as well.
-/

/-- The key of a declaration: its kind and its qualified name. -/
def key?
    (forest : Forest)
    (id : NodeId) :
    Option Key :=
  (forest.node? id).bind fun node =>
    (forest.qualifiedName? id).map fun name => ⟨node.kind, name⟩

/-- Whether a declaration is the first one with its key. -/
def IsFirst
    (forest : Forest)
    (id : NodeId) :
    Prop :=
  ∀ other, forest.key? other = forest.key? id → id ≤ other

variable {forest later : Forest} {id : NodeId} {key : Key}

theorem isFirst_iff :
    forest.IsFirst id ↔
      ∀ other, other < id → forest.key? other ≠ forest.key? id := by
  constructor
  · intro isFirst other before sameKey
    exact Nat.not_le.mpr before (isFirst other sameKey)
  · intro noneBefore other sameKey
    exact Nat.le_of_not_lt fun before =>
      noneBefore other before sameKey

instance
    (forest : Forest) :
    DecidablePred forest.IsFirst :=
  fun _ => decidable_of_iff _ isFirst_iff.symm

theorem lt_size_of_key?
    (hasKey : forest.key? id = some key) :
    id < forest.size := by
  obtain ⟨node, found, -⟩ := Option.bind_eq_some_iff.mp hasKey
  exact lt_size_of_node? found

theorem key?_of_size_le
    (beyond : forest.size ≤ id) :
    forest.key? id = none := by
  rw [key?, node?, List.getElem?_eq_none beyond, Option.bind_none]

theorem exists_key?
    (present : id < forest.size) :
    ∃ key, forest.key? id = some key := by
  obtain ⟨node, found⟩ := exists_node?_of_lt present
  simp [key?, qualifiedName?, segments?, found]

/-- A declaration keeps its key while the forest grows. -/
theorem Linked.key?_eq_of_extends
    (linked : forest.Linked)
    (grows : later.Extends forest)
    (present : id < forest.size) :
    later.key? id = forest.key? id := by
  obtain ⟨node, found⟩ := exists_node?_of_lt present
  obtain ⟨children, foundLater⟩ := grows.nodes id _ found
  simp only [key?, found, foundLater, Option.bind_some,
    linked.qualifiedName?_eq_of_extends grows found]

/-- Which declarations are still open does not matter for keys. -/
theorem Linked.key?_with_scope
    (linked : forest.Linked)
    (scope : List NodeId)
    (id : NodeId) :
    key? { forest with scope := scope } id = forest.key? id := by
  rcases Nat.lt_or_ge id forest.size with present | beyond
  · exact linked.key?_eq_of_extends (.of_nodes_eq rfl rfl) present
  · rw [key?_of_size_le beyond]
    exact key?_of_size_le beyond

/-- Whether a declaration is the first with its key does not change while the
forest grows. -/
theorem Linked.isFirst_iff_of_extends
    (linked : forest.Linked)
    (grows : later.Extends forest)
    (present : id < forest.size) :
    later.IsFirst id ↔ forest.IsFirst id := by
  rw [isFirst_iff, isFirst_iff,
    linked.key?_eq_of_extends grows present]
  refine forall₂_congr fun other before => ?_
  rw [linked.key?_eq_of_extends grows (Nat.lt_trans before present)]

/-- Opening a declaration gives it a key and leaves all other keys alone. -/
theorem Linked.key?_openNode
    {kind : Kind}
    {signature : Signature}
    {name : String}
    (linked : forest.Linked)
    (named :
      (forest.openNode kind signature).qualifiedName? forest.size =
        some name)
    (id : NodeId) :
    (forest.openNode kind signature).key? id =
      if id = forest.size then some ⟨kind, name⟩ else forest.key? id := by
  rcases Nat.lt_trichotomy id forest.size with present | rfl | beyond
  · rw [if_neg (Nat.ne_of_lt present)]
    exact linked.key?_eq_of_extends (.openNode forest kind signature)
      present
  · simp [key?, named]
  · rw [if_neg (Nat.ne_of_gt beyond), key?_of_size_le (Nat.le_of_lt beyond)]
    apply key?_of_size_le
    rw [size_openNode]
    exact beyond

end ApiIndex.Forest

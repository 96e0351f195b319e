import ApiIndex.Proofs.Forest.Growth
import Mathlib.Data.List.Basic
import Mathlib.Logic.Relation

namespace ApiIndex.Forest

/-!
# Ancestors and qualified names

Parents are opened before their children, so climbing from parent to parent ends
and meets exactly the ancestors of a declaration.  It meets the same ones in
every forest that has grown further, in which a declaration therefore keeps its
qualified name.
-/

/-- A forest with all declarations of another one, each with its kind, its
signature and its parent. -/
structure Extends
    (later forest : Forest) : Prop where
  rule :
    later.rule = forest.rule
  nodes :
    ∀ id node,
      forest.node? id = some node →
        ∃ children,
          later.node? id =
            some ⟨node.kind, node.signature, node.parent, children⟩

/-- Whether a declaration is around another one, at whatever distance. -/
def IsAncestor
    (forest : Forest)
    (ancestor id : NodeId) :
    Prop :=
  Relation.TransGen
    (fun child parent => forest.parent? child = some parent) id ancestor

/-- Climbing from parent to parent up to a root.  Every declaration on the way
is found. -/
inductive Ascends
    (forest : Forest) :
    Option NodeId →
      List NodeId →
      Prop where
  | root :
      Ascends forest none []
  | step
      {id : NodeId}
      {node : Node}
      {above : List NodeId}
      (found : forest.node? id = some node)
      (further : Ascends forest node.parent above) :
      Ascends forest (some id) (id :: above)

/-- The full name of a declaration that contributes to what is nested in it. -/
def contribution?
    (forest : Forest)
    (id : NodeId) :
    Option String :=
  (forest.node? id).bind fun node =>
    if forest.rule.contributes node.kind then
      some node.signature.fullName
    else
      none

variable
  {forest later : Forest}
  {start : Option NodeId}
  {ids : List NodeId}
  {id : NodeId}

namespace Extends

theorem of_nodes_eq
    (sameRule : later.rule = forest.rule)
    (sameNodes : later.nodes = forest.nodes) :
    later.Extends forest where
  rule := sameRule
  nodes := by
    intro id node found
    rw [node?, sameNodes]
    exact ⟨node.children, found⟩

theorem trans
    {last : Forest}
    (growsLast : last.Extends later)
    (grows : later.Extends forest) :
    last.Extends forest where
  rule := growsLast.rule.trans grows.rule
  nodes := by
    intro id node found
    obtain ⟨_, foundLater⟩ := grows.nodes id node found
    obtain ⟨children, foundLast⟩ := growsLast.nodes id _ foundLater
    exact ⟨children, foundLast⟩

theorem openNode
    (forest : Forest)
    (kind : Kind)
    (signature : Signature) :
    (forest.openNode kind signature).Extends forest where
  rule := rule_openNode forest kind signature
  nodes := fun _ _ found =>
    exists_node?_openNode forest kind signature found

/-- Which declarations are still open does not matter. -/
theorem with_scope
    (grows : later.Extends forest)
    (scopeLater scope : List NodeId) :
    Extends { later with scope := scopeLater }
      { forest with scope := scope } where
  rule := grows.rule
  nodes := grows.nodes

theorem lt_size
    (grows : later.Extends forest)
    (present : id < forest.size) :
    id < later.size := by
  obtain ⟨node, found⟩ := exists_node?_of_lt present
  obtain ⟨children, foundLater⟩ := grows.nodes id node found
  exact lt_size_of_node? foundLater

theorem size_le
    (grows : later.Extends forest) :
    forest.size ≤ later.size :=
  Nat.le_of_not_lt fun beyond =>
    Nat.lt_irrefl _ (grows.lt_size beyond)

end Extends

namespace Ascends

theorem head?_eq
    (ascends : forest.Ascends start ids) :
    ids.head? = start := by
  cases ascends with
  | root =>
      rfl
  | step found further =>
      rfl

theorem lt_size
    (ascends : forest.Ascends start ids) :
    ∀ id ∈ ids, id < forest.size := by
  induction ascends with
  | root =>
      simp
  | step found further inductionHypothesis =>
      exact List.forall_mem_cons.mpr
        ⟨lt_size_of_node? found, inductionHypothesis⟩

/-- Climbing leads the same way in every forest that has grown further. -/
theorem of_extends
    (ascends : forest.Ascends start ids)
    (grows : later.Extends forest) :
    later.Ascends start ids := by
  induction ascends with
  | root =>
      exact .root
  | step found further inductionHypothesis =>
      obtain ⟨children, foundLater⟩ := grows.nodes _ _ found
      exact .step foundLater inductionHypothesis

/-- With enough steps, climbing lists all declarations on the way. -/
theorem climb_eq
    {steps : Nat}
    (ascends : forest.Ascends start ids)
    (enough : ids.length ≤ steps) :
    forest.climb steps start = ids.filterMap forest.node? := by
  induction ascends generalizing steps with
  | root =>
      cases steps <;> rfl
  | @step id node above found further inductionHypothesis =>
      obtain ⟨fewer, rfl⟩ :=
        Nat.exists_eq_add_of_le' (Nat.le_of_add_left_le enough)
      rw [climb, found, List.filterMap_cons_some found]
      exact congrArg (node :: ·)
        (inductionHypothesis (Nat.le_of_succ_le_succ enough))

/-- On the way are the declarations that can be reached from parent to
parent. -/
theorem mem_iff
    {ancestor : NodeId}
    (ascends : forest.Ascends start ids) :
    ancestor ∈ ids ↔
      ∃ first ∈ start,
        Relation.ReflTransGen
          (fun child parent => forest.parent? child = some parent)
          first ancestor := by
  induction ascends with
  | root =>
      simp
  | @step id node above found further inductionHypothesis =>
      have parents := parent?_of_node? found
      rw [List.mem_cons, inductionHypothesis]
      constructor
      · rintro (rfl | ⟨parent, isParent, reached⟩)
        · exact ⟨ancestor, rfl, .refl⟩
        · exact ⟨id, rfl, .head (parents.trans isParent) reached⟩
      · rintro ⟨_, ⟨⟩, reached⟩
        rcases reached.cases_head with rfl | ⟨parent, isParent, reached⟩
        · exact .inl rfl
        · exact .inr ⟨parent, parents.symm.trans isParent, reached⟩

end Ascends

section Names

theorem contribution?_eq_of_extends
    (grows : later.Extends forest)
    (present : id < forest.size) :
    later.contribution? id = forest.contribution? id := by
  obtain ⟨node, found⟩ := exists_node?_of_lt present
  obtain ⟨children, foundLater⟩ := grows.nodes id node found
  simp only [contribution?, found, foundLater, grows.rule,
    Option.bind_some]

/-- The names of the contributing ones among some declarations. -/
theorem map_fullName_filter_contributes
    (forest : Forest)
    (ids : List NodeId) :
    (((ids.filterMap forest.node?).filter fun node =>
        forest.rule.contributes node.kind).map
          fun node => node.signature.fullName) =
      ids.filterMap forest.contribution? := by
  induction ids with
  | nil =>
      rfl
  | cons id ids inductionHypothesis =>
      cases found : forest.node? id with
      | none =>
          simpa [contribution?, found] using inductionHypothesis
      | some node =>
          by_cases contributes : forest.rule.contributes node.kind <;>
            simpa [contribution?, found, contributes]
              using inductionHypothesis

/-- The qualified name of a declaration is composed along the way up from
it. -/
theorem qualifiedName?_of_ascends
    {node : Node}
    (found : forest.node? id = some node)
    (ascends : forest.Ascends node.parent ids)
    (short : ids.length ≤ forest.size) :
    forest.qualifiedName? id =
      some (NestingRule.render
        (ids.reverse.filterMap forest.contribution? ++
          [node.signature.fullName])) := by
  simp only [qualifiedName?, segments?, found, Option.map_some, ancestors,
    ascends.climb_eq short, map_fullName_filter_contributes,
    List.filterMap_reverse]

end Names

namespace Linked

theorem parent_lt_size
    {node : Node}
    {parent : NodeId}
    (linked : forest.Linked)
    (found : forest.node? id = some node)
    (isParent : node.parent = some parent) :
    parent < forest.size :=
  Nat.lt_trans (linked.parent_lt_of_node? found isParent)
    (lt_size_of_node? found)

/-- Since parents are opened before their children, every way up ends at a
root. -/
theorem exists_ascends
    (linked : forest.Linked)
    (present : ∀ id ∈ start, id < forest.size) :
    ∃ ids, forest.Ascends start ids := by
  cases start with
  | none =>
      exact ⟨[], .root⟩
  | some id =>
      induction id using Nat.strongRecOn with
      | ind id inductionHypothesis =>
          obtain ⟨node, found⟩ := exists_node?_of_lt (present id rfl)
          cases isParent : node.parent with
          | none =>
              exact ⟨[id], .step found (isParent ▸ .root)⟩
          | some parent =>
              obtain ⟨above, further⟩ :=
                inductionHypothesis parent
                  (linked.parent_lt_of_node? found isParent)
                  (by
                    rintro _ ⟨⟩
                    exact linked.parent_lt_size found isParent)
              exact ⟨id :: above, .step found (isParent ▸ further)⟩

/-- No way up is longer than the number of declarations before its end. -/
theorem length_le_of_ascends
    {bound : Nat}
    (linked : forest.Linked)
    (ascends : forest.Ascends start ids)
    (bounded : ∀ id ∈ start, id < bound) :
    ids.length ≤ bound := by
  induction ascends generalizing bound with
  | root =>
      exact Nat.zero_le bound
  | @step id node above found further inductionHypothesis =>
      have before : above.length ≤ id :=
        inductionHypothesis fun _ isParent =>
          linked.parent_lt_of_node? found isParent
      exact Nat.lt_of_le_of_lt before (bounded id rfl)

/-- Above every declaration is a way up, no longer than the forest. -/
theorem exists_ascends_of_node?
    {node : Node}
    (linked : forest.Linked)
    (found : forest.node? id = some node) :
    ∃ ids,
      forest.Ascends node.parent ids ∧ ids.length ≤ forest.size := by
  have present : ∀ parent ∈ node.parent, parent < forest.size :=
    fun _ isParent => linked.parent_lt_size found isParent
  obtain ⟨ids, ascends⟩ := linked.exists_ascends present
  exact ⟨ids, ascends, linked.length_le_of_ascends ascends present⟩

/-- A declaration keeps its qualified name while the forest grows. -/
theorem qualifiedName?_eq_of_extends
    {node : Node}
    (linked : forest.Linked)
    (grows : later.Extends forest)
    (found : forest.node? id = some node) :
    later.qualifiedName? id = forest.qualifiedName? id := by
  obtain ⟨children, foundLater⟩ := grows.nodes id node found
  obtain ⟨ids, ascends, short⟩ := linked.exists_ascends_of_node? found
  have sameNames :
      ids.reverse.filterMap later.contribution? =
        ids.reverse.filterMap forest.contribution? := by
    apply List.filterMap_congr
    intro id member
    exact contribution?_eq_of_extends grows
      (ascends.lt_size id (List.mem_reverse.mp member))
  rw [qualifiedName?_of_ascends found ascends short,
    qualifiedName?_of_ascends foundLater (ascends.of_extends grows)
      (Nat.le_trans short grows.size_le),
    sameNames]

/-- The ancestors that climbing lists are the declarations around a node. -/
theorem mem_ancestors_iff
    {node above : Node}
    (linked : forest.Linked)
    (found : forest.node? id = some node) :
    above ∈ forest.ancestors node ↔
      ∃ ancestor,
        forest.IsAncestor ancestor id ∧
          forest.node? ancestor = some above := by
  obtain ⟨ids, ascends, short⟩ := linked.exists_ascends_of_node? found
  have parents := parent?_of_node? found
  rw [ancestors, ascends.climb_eq short, List.mem_filterMap]
  refine exists_congr fun ancestor => and_congr_left fun _ => ?_
  rw [ascends.mem_iff, IsAncestor, Relation.TransGen.head'_iff]
  simp only [parents, Option.mem_def]

end Linked

end ApiIndex.Forest

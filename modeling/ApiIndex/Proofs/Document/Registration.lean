import ApiIndex.Proofs.Document.Extension
import ApiIndex.Proofs.Document.Place
import ApiIndex.Proofs.Forest.Key
import ApiIndex.Proofs.Forest.Postorder

namespace ApiIndex.Document

open Reference (Entry Key Registry Target)

/-!
# The order of registration

Keys are claimed in the order in which declarations are opened and registered in
the order in which they are closed.  So a finished document registers, in the
post-order of its forest, exactly the declarations whose key no earlier one has.
-/

/-- The entry of a declaration.  It leads to the line of the directive that
declares it; `declaring` are the accepted directives. -/
def entryOf?
    (name : String)
    (declaring : List Directive)
    (forest : Forest)
    (id : NodeId) :
    Option Entry :=
  (forest.key? id).bind fun key =>
    declaring[id]?.map fun directive =>
      ⟨key, Target.ofKey name directive.line key⟩

/-- The entries of those of the given declarations that are the first with
their key. -/
def firstEntries
    (name : String)
    (declaring : List Directive)
    (forest : Forest)
    (ids : List NodeId) :
    List Entry :=
  (ids.filter fun id => forest.IsFirst id).filterMap
    (entryOf? name declaring forest)

section Entries

variable
  {name : String}
  {declaring further : List Directive}
  {forest later : Forest}

theorem firstEntries_append
    (ids more : List NodeId) :
    firstEntries name declaring forest (ids ++ more) =
      firstEntries name declaring forest ids ++
        firstEntries name declaring forest more := by
  rw [firstEntries, List.filter_append, List.filterMap_append]
  rfl

/-- Neither further declarations nor closing any of them changes the entries of
declarations. -/
theorem firstEntries_eq_of_extends
    {ids : List NodeId}
    (linked : forest.Linked)
    (grows : later.Extends forest)
    (size : forest.size = declaring.length)
    (isPrefix : declaring <+: further)
    (present : ∀ id ∈ ids, id < forest.size) :
    firstEntries name further later ids =
      firstEntries name declaring forest ids := by
  have sameFirst :
      (ids.filter fun id => later.IsFirst id) =
        ids.filter fun id => forest.IsFirst id := by
    apply List.filter_congr
    intro id member
    exact decide_eq_decide.mpr
      (linked.isFirst_iff_of_extends grows (present id member))
  rw [firstEntries, sameFirst]
  apply List.filterMap_congr
  intro id member
  have inForest := present id (List.mem_of_mem_filter member)
  obtain ⟨rest, rfl⟩ := isPrefix
  rw [entryOf?, entryOf?, linked.key?_eq_of_extends grows inForest,
    List.getElem?_append_left (size ▸ inForest)]

/-- Forests with the same keys have the same entries. -/
theorem firstEntries_congr
    (sameKeys : ∀ id, forest.key? id = later.key? id)
    (ids : List NodeId) :
    firstEntries name declaring forest ids =
      firstEntries name declaring later ids := by
  have sameFirst
      (id : NodeId) :
      forest.IsFirst id ↔ later.IsFirst id := by
    simp only [Forest.IsFirst, sameKeys]
  simp only [firstEntries, sameFirst]
  exact List.filterMap_congr fun id _ => by
    rw [entryOf?, entryOf?, sameKeys]

/-- Every declaration has an entry, for its key. -/
theorem map_key_entryOf?
    {id : NodeId}
    (present : id < declaring.length) :
    (entryOf? name declaring forest id).map Entry.key = forest.key? id := by
  rw [entryOf?, List.getElem?_eq_getElem present]
  cases forest.key? id <;> rfl

/-- Every declaration that is the first with its key has an entry. -/
theorem map_some_firstEntries
    {ids : List NodeId}
    (size : forest.size = declaring.length)
    (present : ∀ id ∈ ids, id < forest.size) :
    (firstEntries name declaring forest ids).map some =
      (ids.filter fun id => forest.IsFirst id).map
        (entryOf? name declaring forest) := by
  rw [firstEntries, List.map_filterMap_some_eq_filter_map_isSome,
    List.filter_eq_self]
  intro entry member
  obtain ⟨id, isFirst, rfl⟩ := List.mem_map.mp member
  have inForest := present id (List.mem_of_mem_filter isFirst)
  obtain ⟨key, hasKey⟩ := Forest.exists_key? inForest
  rw [← Option.isSome_map, map_key_entryOf? (size ▸ inForest), hasKey,
    Option.isSome_some]

end Entries

namespace Builder

/-- The claims of scopes are the entries of their declarations if each scope
claims that of its own. -/
theorem claimsOf_eq_firstEntries
    {name : String}
    {declaring : List Directive}
    {forest : Forest}
    {scopes : List Scope}
    (claims :
      ∀ scope ∈ scopes,
        scope.claim.toList =
          firstEntries name declaring forest scope.node.toList) :
    claimsOf scopes =
      firstEntries name declaring forest (nodesOf scopes) := by
  induction scopes with
  | nil =>
      rfl
  | cons scope outer inductionHypothesis =>
      rw [List.forall_mem_cons] at claims
      rw [claimsOf_cons, nodesOf_cons, firstEntries_append, claims.1,
        inductionHypothesis claims.2]

/-- A document that has registered the first ones with their key among its
closed declarations, in the order in which they were closed, and that has an
open claim for the first ones among the others. -/
structure Registers
    (name : String)
    (declaring : List Directive)
    (closed : List NodeId)
    (builder : Builder) : Prop where
  sameName : builder.name = name
  coherent : builder.Coherent
  closing : builder.forest.Closing closed
  size : builder.forest.size = declaring.length
  claimed :
    ∀ key,
      key ∈ builder.claimed.keys ↔
        ∃ id, builder.forest.key? id = some key
  registered :
    builder.registry.entries =
      firstEntries name declaring builder.forest closed
  claims :
    ∀ scope ∈ builder.scopes,
      scope.claim.toList =
        firstEntries name declaring builder.forest scope.node.toList

namespace Registers

variable
  {name : String}
  {declaring : List Directive}
  {closed : List NodeId}
  {builder : Builder}

theorem start
    (name : String)
    (rule : NestingRule) :
    Registers name [] [] (Builder.start name rule) where
  sameName := rfl
  coherent := .start name rule
  closing := .empty rule
  size := rfl
  claimed := by
    intro key
    have noKey (id : NodeId) : Forest.key? { rule := rule } id = none :=
      Forest.key?_of_size_le (Nat.zero_le id)
    simp [Builder.start, Registry.keys, noKey]
  registered := rfl
  claims := by
    simp [Builder.start]

theorem linked
    (registers : Registers name declaring closed builder) :
    builder.forest.Linked :=
  registers.closing.inPreorder.linked

/-- The declarations of open scopes are in the forest. -/
theorem node_lt_size
    (registers : Registers name declaring closed builder)
    {scope : Scope}
    (isOpen : scope ∈ builder.scopes) :
    ∀ id ∈ scope.node.toList, id < builder.forest.size := by
  intro id isNode
  apply registers.linked.open_lt
  rw [registers.coherent.nodes]
  exact List.mem_filterMap.mpr
    ⟨scope, isOpen, Option.mem_toList.mp isNode⟩

/-- The declarations of scopes that end are closed behind the others, and their
claims are registered behind the others. -/
theorem afterClosing
    {ended remaining : List Scope}
    (registers : Registers name declaring closed builder)
    (shape : builder.scopes = ended ++ remaining) :
    Registers name declaring (closed ++ nodesOf ended)
      (builder.afterClosing ended remaining) := by
  have nodes :
      builder.forest.scope = nodesOf ended ++ nodesOf remaining := by
    rw [registers.coherent.nodes, shape, nodesOf, List.filterMap_append]
    rfl
  have grows :
      (builder.afterClosing ended remaining).forest.Extends
        builder.forest :=
    .of_nodes_eq rfl rfl
  have sameEntries
      {ids : List NodeId}
      (present : ∀ id ∈ ids, id < builder.forest.size) :
      firstEntries name declaring
          (builder.afterClosing ended remaining).forest ids =
        firstEntries name declaring builder.forest ids :=
    firstEntries_eq_of_extends registers.linked grows registers.size
      (List.prefix_refl _) present
  have present := registers.closing.lt_size
  have allClaims := registers.claims
  rw [nodes, ← List.append_assoc] at present
  rw [shape] at allClaims
  exact {
    sameName := registers.sameName
    coherent := registers.coherent.afterClosing shape
    closing := registers.closing.close nodes
    size := registers.size
    claimed := by
      intro key
      have sameKeys
          (id : NodeId) :
          (builder.afterClosing ended remaining).forest.key? id =
            builder.forest.key? id :=
        registers.linked.key?_with_scope _ id
      simp only [sameKeys]
      exact registers.claimed key
    registered := by
      have endedClaims :=
        claimsOf_eq_firstEntries fun scope member =>
          allClaims scope (List.mem_append_left remaining member)
      rw [sameEntries fun id member =>
          present id (List.mem_append_left _ member),
        firstEntries_append, ← registers.registered, ← endedClaims]
      rfl
    claims := by
      intro scope member
      have isOpen : scope ∈ builder.scopes := by
        rw [shape]
        exact List.mem_append_right ended member
      rw [sameEntries (registers.node_lt_size isOpen)]
      exact registers.claims scope isOpen
  }

theorem exists_closeFrom
    (registers : Registers name declaring closed builder)
    (indent : Nat) :
    ∃ closedLater,
      Registers name declaring closedLater (builder.closeFrom indent) := by
  obtain ⟨ended, remaining, shape, closed⟩ :=
    registers.coherent.exists_closeFrom indent
  rw [closed]
  exact ⟨_, registers.afterClosing shape⟩

/-- A rejected directive changes nothing. -/
theorem reject
    {directive : Directive}
    (registers : Registers name declaring closed builder)
    (inside :
      ∀ outer ∈ builder.scopes, outer.indent < directive.indent)
    (problem : Problem) :
    Registers name declaring closed
      (builder.reject directive problem) where
  sameName := registers.sameName
  coherent := registers.coherent.reject inside problem
  closing := registers.closing
  size := registers.size
  claimed := registers.claimed
  registered := registers.registered
  claims := List.forall_mem_cons.mpr ⟨rfl, registers.claims⟩

section Accepting

variable
  {directive : Directive}
  {kind : Kind}
  {signature : Signature}
  {qualified : String}

/-- The entry of a declaration that is just opened, unless its key is
claimed. -/
theorem firstEntries_openNode
    (registers : Registers name declaring closed builder)
    (named :
      (builder.forest.openNode kind signature).qualifiedName?
        builder.forest.size = some qualified) :
    firstEntries name (declaring ++ [directive])
        (builder.forest.openNode kind signature) [builder.forest.size] =
      if ⟨kind, qualified⟩ ∈ builder.claimed.keys then
        []
      else
        [⟨⟨kind, qualified⟩,
          Target.ofKey name directive.line ⟨kind, qualified⟩⟩] := by
  have keys := registers.linked.key?_openNode named
  have hasKey := keys builder.forest.size
  rw [if_pos rfl] at hasKey
  split
  · next taken =>
      obtain ⟨other, otherKey⟩ := (registers.claimed _).mp taken
      have before := Forest.lt_size_of_key? otherKey
      have notFirst :
          ¬ (builder.forest.openNode kind signature).IsFirst
              builder.forest.size := by
        intro isFirst
        refine Nat.not_le.mpr before (isFirst other ?_)
        rw [keys other, if_neg (Nat.ne_of_lt before), otherKey, hasKey]
      simp [firstEntries, notFirst]
  · next absent =>
      have isFirst :
          (builder.forest.openNode kind signature).IsFirst
            builder.forest.size := by
        rw [Forest.isFirst_iff]
        intro other before sameKey
        rw [hasKey, keys other, if_neg (Nat.ne_of_lt before)] at sameKey
        exact absent ((registers.claimed _).mpr ⟨other, sameKey⟩)
      have line :
          (declaring ++ [directive])[builder.forest.size]? =
            some directive := by
        rw [registers.size]
        exact List.getElem?_concat_length
      simp [firstEntries, isFirst, entryOf?, hasKey, line]

/-- Opening a scope for a new declaration leaves what is closed alone, if the
key of the declaration is claimed with it or was claimed before. -/
theorem openScope
    {opened : Builder}
    (registers : Registers name declaring closed builder)
    (scope : Scope)
    (named :
      (builder.forest.openNode kind signature).qualifiedName?
        builder.forest.size = some qualified)
    (coherent : opened.Coherent)
    (sameName : opened.name = builder.name)
    (forest : opened.forest = builder.forest.openNode kind signature)
    (registry : opened.registry = builder.registry)
    (scopes : opened.scopes = scope :: builder.scopes)
    (claimed :
      ∀ key,
        key ∈ opened.claimed.keys ↔
          key ∈ builder.claimed.keys ∨ key = ⟨kind, qualified⟩)
    (claim :
      scope.claim.toList =
        firstEntries name (declaring ++ [directive])
          (builder.forest.openNode kind signature) scope.node.toList) :
    Registers name (declaring ++ [directive]) closed opened := by
  have linked := registers.linked
  have sameEntries
      {ids : List NodeId}
      (present : ∀ id ∈ ids, id < builder.forest.size) :
      firstEntries name (declaring ++ [directive]) opened.forest ids =
        firstEntries name declaring builder.forest ids := by
    rw [forest]
    exact firstEntries_eq_of_extends linked (.openNode _ kind signature)
      registers.size (List.prefix_append _ _) present
  exact {
    sameName := sameName.trans registers.sameName
    coherent := coherent
    closing := by
      rw [forest]
      exact registers.closing.openNode kind signature
    size := by
      simp [forest, registers.size]
    claimed := by
      intro key
      rw [claimed, registers.claimed, forest]
      simp only [linked.key?_openNode named]
      constructor
      · rintro (⟨id, hasKey⟩ | rfl)
        · refine ⟨id, ?_⟩
          rw [if_neg (Nat.ne_of_lt (Forest.lt_size_of_key? hasKey)),
            hasKey]
        · exact ⟨builder.forest.size, if_pos rfl⟩
      · rintro ⟨id, hasKey⟩
        split at hasKey
        · exact .inr (Option.some.inj hasKey).symm
        · exact .inl ⟨id, hasKey⟩
    registered := by
      rw [registry, registers.registered, sameEntries]
      intro id isClosed
      exact registers.closing.lt_size id (List.mem_append_left _ isClosed)
    claims := by
      rw [scopes, List.forall_mem_cons]
      refine ⟨forest ▸ claim, ?_⟩
      intro outer isOpen
      rw [sameEntries (registers.node_lt_size isOpen)]
      exact registers.claims outer isOpen
  }

theorem accept
    (registers : Registers name declaring closed builder)
    (inside :
      ∀ outer ∈ builder.scopes, outer.indent < directive.indent)
    (kind : Kind)
    (signature : Signature) :
    Registers name (declaring ++ [directive]) closed
      (builder.accept directive kind signature) := by
  have coherent := registers.coherent.accept inside kind signature
  obtain ⟨qualified, named⟩ :=
    builder.forest.exists_qualifiedName?_openNode kind signature
  have newEntries := @firstEntries_openNode _ _ _ _ directive _ _ _
    registers named
  cases found : builder.claimed.find? ⟨kind, qualified⟩ with
  | none =>
      have absent := Registry.find?_eq_none_iff.mp found
      rw [if_neg absent] at newEntries
      rw [accept_of_absent named absent] at coherent ⊢
      refine registers.openScope
        ⟨directive.indent, some builder.forest.size,
          some ⟨⟨kind, qualified⟩, _⟩⟩
        named coherent rfl rfl rfl rfl ?_ ?_
      · simp [Registry.keys]
      · rw [registers.sameName]
        exact newEntries.symm
  | some existing =>
      have taken : ⟨kind, qualified⟩ ∈ builder.claimed.keys :=
        List.mem_map_of_mem (Registry.mem_entries_of_find? found)
      rw [if_pos taken] at newEntries
      rw [accept_of_taken named found] at coherent ⊢
      refine registers.openScope
        ⟨directive.indent, some builder.forest.size, none⟩
        named coherent rfl rfl rfl rfl ?_ ?_
      · intro key
        constructor
        · exact .inl
        · rintro (present | rfl)
          · exact present
          · exact taken
      · exact newEntries.symm

end Accepting

theorem exists_push
    (registers : Registers name declaring closed builder)
    (directive : Directive) :
    ∃ closedLater,
      Registers name
        (declaring ++
          [directive].filter fun directive => directive.declared?.isSome)
        closedLater (builder.push directive) := by
  obtain ⟨closedLater, enclosing⟩ :=
    registers.exists_closeFrom directive.indent
  have inside :=
    registers.coherent.indent_lt_of_closeFrom directive.indent
  refine ⟨closedLater, ?_⟩
  cases resolved : directive.resolve with
  | error problem =>
      have rejected := Directive.declared?_of_error resolved
      rw [push_of_error resolved]
      simpa [rejected] using enclosing.reject inside problem
  | ok declaration =>
      obtain ⟨kind, signature⟩ := declaration
      have declared := Directive.declared?_eq_some_iff.mpr resolved
      rw [push_of_ok resolved]
      simpa [declared] using enclosing.accept inside kind signature

theorem exists_foldl
    (name : String)
    (rule : NestingRule)
    (directives : List Directive) :
    ∃ closed,
      Registers name
        (directives.filter fun directive => directive.declared?.isSome)
        closed (directives.foldl Builder.push (.start name rule)) := by
  induction directives using List.reverseRecOn with
  | nil =>
      exact ⟨[], .start name rule⟩
  | append_singleton directives directive inductionHypothesis =>
      obtain ⟨closed, registers⟩ := inductionHypothesis
      rw [List.filter_append, List.foldl_append]
      exact registers.exists_push directive

/-- Finishing a document closes all its declarations and registers the first
ones with their key among them. -/
theorem exists_finish
    (registers : Registers name declaring closed builder) :
    ∃ order,
      builder.finish.forest.Postorder builder.finish.forest.roots order ∧
        order.Perm (List.range builder.finish.forest.size) ∧
        builder.finish.forest.size = declaring.length ∧
        builder.finish.registry.entries =
          firstEntries name declaring builder.finish.forest order := by
  obtain ⟨-, -, ⟨-, postorder, perm⟩, size, -, registered, -⟩ :=
    registers.afterClosing (List.append_nil _).symm
  have noneOpen :
      (builder.afterClosing builder.scopes []).forest.scope = [] :=
    rfl
  rw [noneOpen, List.append_nil] at postorder perm
  rw [registers.coherent.finish_eq]
  exact ⟨_, postorder, perm, size, registered⟩

end Registers

end Builder

/-- The registry lists the first ones with their key in post-order. -/
theorem exists_postorder_registry
    (name : String)
    (rule : NestingRule)
    (directives : List Directive) :
    let outcome := ofDirectives name rule directives
    ∃ order,
      outcome.forest.Postorder outcome.forest.roots order ∧
        outcome.registry =
          ⟨firstEntries name
            (directives.filter fun directive =>
              directive.declared?.isSome)
            outcome.forest order⟩ := by
  obtain ⟨closed, registers⟩ :=
    Builder.Registers.exists_foldl name rule directives
  obtain ⟨order, postorder, -, -, registered⟩ := registers.exists_finish
  exact ⟨order, postorder, congrArg Reference.Registry.mk registered⟩

/-- A finished document registers its declarations in the post-order of its
forest, leaving out those whose kind and qualified name an earlier declaration
has.  Every declaration comes once in that order, and the entry of each one that
is registered leads to the line of its directive. -/
theorem registry_eq_first_in_postorder
    (name : String)
    (rule : NestingRule)
    (directives : List Directive) :
    let outcome := ofDirectives name rule directives
    let declaring :=
      directives.filter fun directive => directive.declared?.isSome
    ∃ order,
      (∀ other,
        outcome.forest.Postorder outcome.forest.roots other ↔
          other = order) ∧
        order.Perm (List.range outcome.forest.size) ∧
        outcome.registry.keys.map some =
          (order.filter fun id => outcome.forest.IsFirst id).map
            outcome.forest.key? ∧
        outcome.registry.entries.map some =
          (order.filter fun id => outcome.forest.IsFirst id).map
            (entryOf? name declaring outcome.forest) := by
  intro outcome declaring
  obtain ⟨closed, registers⟩ :=
    Builder.Registers.exists_foldl name rule directives
  obtain ⟨order, postorder, perm, size, registered⟩ :=
    registers.exists_finish
  have present : ∀ id ∈ order, id < outcome.forest.size :=
    fun _ member => List.mem_range.mp (perm.mem_iff.mp member)
  have entries :
      outcome.registry.entries.map some =
        (order.filter fun id => outcome.forest.IsFirst id).map
          (entryOf? name declaring outcome.forest) :=
    (congrArg _ registered).trans (map_some_firstEntries size present)
  refine ⟨order, ?_, perm, ?_, entries⟩
  · intro other
    constructor
    · exact fun otherOrder => otherOrder.unique postorder
    · rintro rfl
      exact postorder
  · have keys := congrArg (List.map (Option.map Entry.key)) entries
    rw [List.map_map, List.map_map] at keys
    rw [Registry.keys, List.map_map]
    refine keys.trans (List.map_congr_left fun id isFirst => ?_)
    have inForest := present id (List.mem_of_mem_filter isFirst)
    exact map_key_entryOf? (size ▸ inForest)

/-- A structure that is nested in one with the same key is left out, and the
outer one is registered behind its field. -/
example :
    (ofDirectives "shapes" .legacy
        [⟨1, 0, "structure", "Size"⟩, ⟨2, 4, "structure", "Size"⟩,
          ⟨3, 4, "field", "width"⟩]).registry.keys.map Key.name =
      ["width", "Size"] := by
  decide +kernel

end ApiIndex.Document

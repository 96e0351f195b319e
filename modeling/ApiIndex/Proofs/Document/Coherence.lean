import ApiIndex.Document.Builder
import ApiIndex.Proofs.Forest
import ApiIndex.Proofs.Reference.Registry
import Mathlib.Data.List.TakeWhile

namespace ApiIndex.Document.Builder

open ApiIndex.Reference (Duplicate Entry Key Registry Target)

/-!
# Open scopes, open declarations and claims agree

A document in the middle of its directives keeps the same nesting three times:
as a stack of scopes, as the open declarations of its forest and as claims that
are not registered yet.  Coherence says how they fit together.  It holds at the
start, and opening and ending scopes keep it, so ending a scope always closes
its own declaration and always registers its claim.
-/

/-- The claims of scopes, innermost first. -/
def claimsOf
    (scopes : List Scope) :
    List Entry :=
  scopes.filterMap (·.claim)

/-- The declarations of scopes, innermost first. -/
def nodesOf
    (scopes : List Scope) :
    List NodeId :=
  scopes.filterMap (·.node)

section Scopes

variable (scope : Scope) (scopes more : List Scope)

@[simp] theorem claimsOf_nil :
    claimsOf [] = [] :=
  rfl

@[simp] theorem claimsOf_cons :
    claimsOf (scope :: scopes) =
      scope.claim.toList ++ claimsOf scopes := by
  cases isClaim : scope.claim <;> simp [claimsOf, isClaim]

@[simp] theorem claimsOf_append :
    claimsOf (scopes ++ more) = claimsOf scopes ++ claimsOf more :=
  List.filterMap_append

@[simp] theorem nodesOf_cons :
    nodesOf (scope :: scopes) = scope.node.toList ++ nodesOf scopes := by
  cases isNode : scope.node <;> simp [nodesOf, isNode]

end Scopes

/-- How the scopes, the forest and the claims of a document fit together. -/
structure Coherent
    (builder : Builder) : Prop where
  /-- Every scope is indented further than the scopes around it. -/
  indents :
    builder.scopes.Pairwise fun inner outer => outer.indent < inner.indent
  /-- The open declarations are those of the open scopes. -/
  nodes :
    builder.forest.scope = nodesOf builder.scopes
  /-- Only declarations claim a key. -/
  claimants :
    ∀ scope ∈ builder.scopes, scope.node = none → scope.claim = none
  /-- What is claimed is registered or claimed by an open scope. -/
  claims :
    builder.claimed.entries.Perm
      (builder.registry.entries ++ claimsOf builder.scopes)
  /-- No key is registered or claimed by an open scope twice. -/
  unique :
    ((builder.registry.entries ++ claimsOf builder.scopes).map
      Entry.key).Nodup

/-- The states of a document between its directives and between the turns of
the loops that end scopes. -/
inductive Reachable
    (name : String)
    (rule : NestingRule) :
    Builder → Prop where
  | start :
      Reachable name rule (start name rule)
  | push
      {builder : Builder}
      (reachable : Reachable name rule builder)
      (directive : Directive) :
      Reachable name rule (builder.push directive)
  | closeScope
      {builder : Builder}
      (reachable : Reachable name rule builder) :
      Reachable name rule builder.closeScope

/-- A document after some of its scopes have ended and others remain. -/
def afterClosing
    (builder : Builder)
    (ended remaining : List Scope) :
    Builder :=
  { builder with
    forest := { builder.forest with scope := nodesOf remaining }
    registry := ⟨builder.registry.entries ++ claimsOf ended⟩
    scopes := remaining }

variable {builder : Builder}

section Accepting

variable
  {directive : Directive}
  {kind : Kind}
  {signature : Signature}
  {name : String}

theorem push_of_ok
    (resolved : directive.resolve = .ok (kind, signature)) :
    builder.push directive =
      (builder.closeFrom directive.indent).accept directive kind
        signature := by
  simp only [push, resolved]

theorem push_of_error
    {problem : Problem}
    (resolved : directive.resolve = .error problem) :
    builder.push directive =
      (builder.closeFrom directive.indent).reject directive problem := by
  simp only [push, resolved]

/-- A declaration with a new key claims it. -/
theorem accept_of_absent
    (named :
      (builder.forest.openNode kind signature).qualifiedName?
        builder.forest.size = some name)
    (absent : ⟨kind, name⟩ ∉ builder.claimed.keys) :
    builder.accept directive kind signature =
      let claim : Entry :=
        ⟨⟨kind, name⟩,
          Target.ofKey builder.name directive.line ⟨kind, name⟩⟩
      { builder with
        forest := builder.forest.openNode kind signature
        claimed := ⟨builder.claimed.entries ++ [claim]⟩
        scopes :=
          ⟨directive.indent, some builder.forest.size, some claim⟩ ::
            builder.scopes } := by
  simp only [accept, named, Registry.register_of_not_mem absent]

/-- A declaration whose key is taken is reported and claims nothing. -/
theorem accept_of_taken
    {existing : Target}
    (named :
      (builder.forest.openNode kind signature).qualifiedName?
        builder.forest.size = some name)
    (taken : builder.claimed.find? ⟨kind, name⟩ = some existing) :
    builder.accept directive kind signature =
      { builder with
        forest := builder.forest.openNode kind signature
        diagnostics :=
          builder.diagnostics ++
            [Diagnostic.ofProblem builder.name directive.line
              (.duplicate ⟨⟨kind, name⟩, existing⟩)]
        scopes :=
          ⟨directive.indent, some builder.forest.size, none⟩ ::
            builder.scopes } := by
  simp only [accept, named, Registry.register_of_find? taken, report]

@[simp] theorem accept_name :
    (builder.accept directive kind signature).name = builder.name := by
  simp only [accept]
  split
  · rfl
  · split <;> rfl

@[simp] theorem accept_forest :
    (builder.accept directive kind signature).forest =
      builder.forest.openNode kind signature := by
  simp only [accept]
  split
  · rfl
  · split <;> rfl

theorem exists_accept_scopes :
    ∃ claim,
      (builder.accept directive kind signature).scopes =
        ⟨directive.indent, some builder.forest.size, claim⟩ ::
          builder.scopes := by
  simp only [accept]
  split
  · exact ⟨_, rfl⟩
  · split <;> exact ⟨_, rfl⟩

end Accepting

namespace Coherent

theorem claimed_unique
    (coherent : builder.Coherent) :
    builder.claimed.keys.Nodup :=
  (coherent.claims.map Entry.key).nodup_iff.mpr coherent.unique

/-- A claim of an open scope is not registered yet. -/
theorem not_registered
    (coherent : builder.Coherent)
    {claim : Entry}
    (isOpen : claim ∈ claimsOf builder.scopes) :
    claim.key ∉ builder.registry.keys := by
  have unique := coherent.unique
  rw [List.map_append, List.nodup_append] at unique
  intro registered
  exact unique.2.2 _ registered _ (List.mem_map_of_mem isOpen) rfl

/-- Ending the innermost scopes keeps coherence. -/
theorem afterClosing
    {ended remaining : List Scope}
    (coherent : builder.Coherent)
    (shape : builder.scopes = ended ++ remaining) :
    (builder.afterClosing ended remaining).Coherent where
  indents := by
    have ordered := coherent.indents
    rw [shape] at ordered
    exact (List.pairwise_append.mp ordered).2.1
  nodes := rfl
  claimants := by
    intro scope member
    apply coherent.claimants
    rw [shape]
    exact List.mem_append_right _ member
  claims := by
    have claims := coherent.claims
    simpa [shape, Builder.afterClosing] using claims
  unique := by
    have unique := coherent.unique
    simpa [shape, Builder.afterClosing] using unique

/-- Ending the innermost scope closes its declaration, if it has one, and
registers its claim, if it has one. -/
theorem closeScope_eq
    {scope : Scope}
    {outer : List Scope}
    (coherent : builder.Coherent)
    (shape : builder.scopes = scope :: outer) :
    builder.closeScope = builder.afterClosing [scope] outer := by
  have nodes := coherent.nodes
  have claimant := coherent.claimants scope (by simp [shape])
  obtain ⟨indent, node, claim⟩ := scope
  cases node with
  | none =>
      cases claimant rfl
      have sameForest :
          { builder.forest with scope := nodesOf outer } =
            builder.forest := by
        have unchanged : nodesOf outer = builder.forest.scope := by
          simp [nodes, shape]
        rw [unchanged]
      simp [closeScope, shape, Builder.afterClosing, sameForest]
  | some id =>
      have popped : builder.forest.scope.tail = nodesOf outer := by
        simp [nodes, shape]
      cases claim with
      | none =>
          simp [closeScope, shape, settle, Builder.afterClosing,
            Forest.closeNode, popped]
      | some claim =>
          have registered :=
            @Registry.register_of_not_mem builder.registry claim.key
              claim.target
              (coherent.not_registered (by simp [shape]))
          simp [closeScope, shape, settle, Builder.afterClosing,
            Forest.closeNode, popped, registered]

theorem closeScope
    (coherent : builder.Coherent) :
    builder.closeScope.Coherent := by
  cases shape : builder.scopes with
  | nil =>
      simpa [Builder.closeScope, shape] using coherent
  | cons scope outer =>
      rw [coherent.closeScope_eq shape]
      exact coherent.afterClosing shape

theorem afterClosing_nil
    (coherent : builder.Coherent) :
    builder.afterClosing [] builder.scopes = builder := by
  simp [Builder.afterClosing, ← coherent.nodes]

/-- Ending scopes from an indentation on ends those that are indented at least
as far. -/
theorem closeFrom_eq
    (indent : Nat)
    (coherent : builder.Coherent) :
    builder.closeFrom indent =
      builder.afterClosing
        (builder.scopes.takeWhile fun scope => indent ≤ scope.indent)
        (builder.scopes.dropWhile fun scope => indent ≤ scope.indent) := by
  fun_induction closeFrom indent builder with
  | case1 builder shape =>
      simpa [shape] using coherent.afterClosing_nil.symm
  | case2 builder scope outer shape reaches inductionHypothesis =>
      rw [inductionHypothesis coherent.closeScope,
        coherent.closeScope_eq shape]
      simp [shape, reaches, Builder.afterClosing]
  | case3 builder scope outer shape staysOpen =>
      simpa [shape, staysOpen] using coherent.afterClosing_nil.symm

theorem closeFrom
    (indent : Nat)
    (coherent : builder.Coherent) :
    (builder.closeFrom indent).Coherent := by
  rw [coherent.closeFrom_eq]
  exact coherent.afterClosing List.takeWhile_append_dropWhile.symm

/-- Opening a scope inside all others keeps coherence, if its declaration is
opened with it and its claim is new. -/
theorem openScope
    {opened : Builder}
    (coherent : builder.Coherent)
    (scope : Scope)
    (inside : ∀ outer ∈ builder.scopes, outer.indent < scope.indent)
    (claimant : scope.node = none → scope.claim = none)
    (absent :
      ∀ claim, scope.claim = some claim →
        claim.key ∉ builder.claimed.keys)
    (nodes :
      opened.forest.scope = scope.node.toList ++ builder.forest.scope)
    (registry : opened.registry = builder.registry)
    (claimed :
      opened.claimed.entries =
        builder.claimed.entries ++ scope.claim.toList)
    (scopes : opened.scopes = scope :: builder.scopes) :
    opened.Coherent := by
  have claims :
      opened.claimed.entries.Perm
        (opened.registry.entries ++ claimsOf opened.scopes) := by
    rw [claimed, registry, scopes, claimsOf_cons]
    have regrouped :
        (builder.registry.entries ++ claimsOf builder.scopes ++
            scope.claim.toList).Perm
          (builder.registry.entries ++
            (scope.claim.toList ++ claimsOf builder.scopes)) := by
      rw [List.append_assoc]
      exact List.perm_append_comm.append_left _
    exact (coherent.claims.append_right _).trans regrouped
  have unique : opened.claimed.keys.Nodup := by
    have keys :
        opened.claimed.keys =
          builder.claimed.keys ++ scope.claim.toList.map Entry.key := by
      rw [Registry.keys, claimed, List.map_append]
      rfl
    rw [keys]
    cases isClaim : scope.claim with
    | none =>
        simpa using coherent.claimed_unique
    | some claim =>
        rw [Option.toList_some, List.map_singleton,
          ← List.concat_eq_append]
        exact (List.nodup_concat _ _).mpr
          ⟨absent claim isClaim, coherent.claimed_unique⟩
  exact {
    indents := by
      rw [scopes]
      exact .cons inside coherent.indents
    nodes := by
      rw [nodes, coherent.nodes, scopes, nodesOf_cons]
    claimants := by
      rw [scopes]
      simpa using ⟨claimant, coherent.claimants⟩
    claims := claims
    unique := (claims.map Entry.key).nodup_iff.mp unique
  }

theorem start
    (name : String)
    (rule : NestingRule) :
    (Builder.start name rule).Coherent where
  indents := .nil
  nodes := rfl
  claimants := by
    simp [Builder.start]
  claims := .nil
  unique := .nil

theorem reject
    (coherent : builder.Coherent)
    {directive : Directive}
    (inside :
      ∀ outer ∈ builder.scopes, outer.indent < directive.indent)
    (problem : Problem) :
    (builder.reject directive problem).Coherent := by
  apply coherent.openScope ⟨directive.indent, none, none⟩ inside
  · simp
  · simp
  · rfl
  · rfl
  · simp [Builder.reject, report]
  · rfl

theorem accept
    (coherent : builder.Coherent)
    {directive : Directive}
    (inside :
      ∀ outer ∈ builder.scopes, outer.indent < directive.indent)
    (kind : Kind)
    (signature : Signature) :
    (builder.accept directive kind signature).Coherent := by
  obtain ⟨name, named⟩ :=
    builder.forest.exists_qualifiedName?_openNode kind signature
  cases found : builder.claimed.find? ⟨kind, name⟩ with
  | none =>
      have absent := Registry.find?_eq_none_iff.mp found
      rw [accept_of_absent named absent]
      apply coherent.openScope
        ⟨directive.indent, some builder.forest.size,
          some ⟨⟨kind, name⟩, _⟩⟩ inside
      · simp
      · simpa using absent
      · simp
      · rfl
      · rfl
      · rfl
  | some existing =>
      rw [accept_of_taken named found]
      apply coherent.openScope
        ⟨directive.indent, some builder.forest.size, none⟩ inside
      · simp
      · simp
      · simp
      · rfl
      · simp
      · rfl

/-- What remains open at an indentation is indented less. -/
theorem indent_lt_of_closeFrom
    (coherent : builder.Coherent)
    (indent : Nat) :
    ∀ scope ∈ (builder.closeFrom indent).scopes,
      scope.indent < indent := by
  rw [coherent.closeFrom_eq, Builder.afterClosing]
  have ordered :
      (builder.scopes.dropWhile fun scope =>
        indent ≤ scope.indent).Pairwise
          fun inner outer => outer.indent < inner.indent :=
    coherent.indents.sublist (List.dropWhile_sublist _)
  have stopped :=
    List.head?_dropWhile_not (fun scope : Scope => indent ≤ scope.indent)
      builder.scopes
  cases shape :
      builder.scopes.dropWhile fun scope => indent ≤ scope.indent with
  | nil =>
      simp
  | cons innermost outer =>
      rw [shape] at ordered stopped
      have less : innermost.indent < indent := by
        simpa using stopped
      intro scope member
      rcases List.mem_cons.mp member with rfl | isOuter
      · exact less
      · exact Nat.lt_trans (List.rel_of_pairwise_cons ordered isOuter)
          less

theorem push
    (coherent : builder.Coherent)
    (directive : Directive) :
    (builder.push directive).Coherent := by
  have closed := coherent.closeFrom directive.indent
  have inside := coherent.indent_lt_of_closeFrom directive.indent
  cases resolved : directive.resolve with
  | ok declaration =>
      rw [push_of_ok resolved]
      exact closed.accept inside declaration.1 declaration.2
  | error problem =>
      rw [push_of_error resolved]
      exact closed.reject inside problem

/-- Finishing a document registers the claims of all open scopes and changes
nothing else that is kept. -/
theorem finish_eq
    (coherent : builder.Coherent) :
    builder.finish =
      ⟨builder.name, { builder.forest with scope := [] },
        ⟨builder.registry.entries ++ claimsOf builder.scopes⟩,
        builder.diagnostics⟩ := by
  have allEnded :
      builder.scopes.takeWhile (fun scope => 0 ≤ scope.indent) =
        builder.scopes := by
    simp [List.takeWhile_eq_self_iff]
  have noneRemain :
      builder.scopes.dropWhile (fun scope => 0 ≤ scope.indent) = [] := by
    simp [List.dropWhile_eq_nil_iff]
  rw [finish, coherent.closeFrom_eq, allEnded, noneRemain]
  rfl

end Coherent

theorem Reachable.coherent
    {name : String}
    {rule : NestingRule}
    (reachable : Reachable name rule builder) :
    builder.Coherent := by
  induction reachable with
  | start =>
      exact .start name rule
  | push reachable directive inductionHypothesis =>
      exact inductionHypothesis.push directive
  | closeScope reachable inductionHypothesis =>
      exact inductionHypothesis.closeScope

/-- Every reachable state is coherent.  Therefore ending a scope closes the
declaration of that scope and no other, registering its claim succeeds, no loop
that ends scopes reports anything, and a finished document has no open
declaration. -/
theorem coherent_and_closes_own_declaration
    {name : String}
    {rule : NestingRule}
    (reachable : Reachable name rule builder) :
    builder.Coherent ∧
      (∀ scope outer,
        builder.scopes = scope :: outer →
          (∀ id, scope.node = some id →
            builder.forest.current? = some id ∧
              builder.closeScope.forest = builder.forest.closeNode) ∧
          (scope.node = none →
            builder.closeScope.forest = builder.forest) ∧
          (∀ claim, scope.claim = some claim →
            builder.registry.register claim.key claim.target =
              .ok builder.closeScope.registry)) ∧
      builder.closeScope.diagnostics = builder.diagnostics ∧
      (∀ indent,
        (builder.closeFrom indent).diagnostics = builder.diagnostics) ∧
      builder.finish.diagnostics = builder.diagnostics ∧
      builder.finish.forest.depth = 0 := by
  have coherent := reachable.coherent
  refine ⟨coherent, ?_, ?_, ?_, ?_, ?_⟩
  · intro scope outer shape
    have nodes := coherent.nodes
    rw [shape, nodesOf_cons] at nodes
    rw [coherent.closeScope_eq shape]
    refine ⟨?_, ?_, ?_⟩
    · intro id isNode
      simp [Forest.current?, Forest.closeNode, afterClosing, nodes, isNode]
    · intro noNode
      rw [noNode, Option.toList_none, List.nil_append] at nodes
      simp [afterClosing, ← nodes]
    · intro claim isClaim
      have absent :=
        @coherent.not_registered _ claim (by simp [shape, isClaim])
      rw [Registry.register_of_not_mem absent]
      simp [afterClosing, isClaim]
  · cases shape : builder.scopes with
    | nil =>
        simp [closeScope, shape]
    | cons scope outer =>
        rw [coherent.closeScope_eq shape]
        rfl
  · intro indent
    rw [coherent.closeFrom_eq]
    rfl
  · rw [coherent.finish_eq]
  · rw [coherent.finish_eq]
    rfl

/-- The state after a class, a rejected method inside it and a nested class, of
which the innermost scope has ended. -/
theorem coherent_amid_closing :
    let builder :=
      ([⟨1, 0, "class", "Shape"⟩, ⟨2, 4, "method", "area("⟩,
          ⟨3, 8, "class", "Edge"⟩].foldl push
        (start "shapes" .legacy)).closeScope
    Reachable "shapes" .legacy builder ∧
      builder.Coherent ∧ builder.finish.forest.depth = 0 := by
  have reachable :
      Reachable "shapes" .legacy
        ([⟨1, 0, "class", "Shape"⟩, ⟨2, 4, "method", "area("⟩,
            ⟨3, 8, "class", "Edge"⟩].foldl push
          (start "shapes" .legacy)).closeScope :=
    .closeScope (.push (.push (.push .start _) _) _)
  obtain ⟨coherent, -, -, -, -, depth⟩ :=
    coherent_and_closes_own_declaration reachable
  exact ⟨reachable, coherent, depth⟩

end ApiIndex.Document.Builder

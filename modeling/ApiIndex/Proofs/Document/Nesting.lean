import ApiIndex.Proofs.Document.Coherence
import ApiIndex.Proofs.Document.Place
import Mathlib.Tactic.IntervalCases

namespace ApiIndex.Document

open ApiIndex.Reference (Entry)

/-!
# Nesting by indentation

After every directive the open scopes are the open places of the history, and
the forest has one declaration for every accepted directive, in order, below
the nearest accepted directive around it.
-/

/-- The declaration that a place in a document is nested in. -/
def Place.parent?
    (place : Place) :
    Option NodeId :=
  ((enclosing place.directive.indent place.earlier).filterMap
    Place.node?).head?

/-- A forest with one declaration for every accepted directive of a history,
nested as the indentations say. -/
structure Records
    (history : List Directive)
    (forest : Forest) : Prop where
  size :
    forest.size = rank history
  nodes :
    ∀ directive earlier kind signature,
      directive :: earlier <:+ history →
        directive.declared? = some (kind, signature) →
          ∃ children,
            forest.node? (rank earlier) =
              some ⟨kind, signature,
                Place.parent? ⟨directive, earlier⟩, children⟩
  roots :
    forest.RootsExact

namespace Records

variable {history : List Directive} {forest : Forest}

theorem empty
    (rule : NestingRule) :
    Records [] { rule := rule } where
  size := rfl
  nodes := by
    simp
  roots := by
    simp [Forest.RootsExact, Forest.node?]

/-- A rejected directive declares nothing. -/
theorem skip
    {directive : Directive}
    (records : Records history forest)
    (rejected : directive.declared? = none) :
    Records (directive :: history) forest where
  size := by
    simp [records.size, rank_cons, rejected]
  nodes := by
    intro other earlier kind signature isSuffix declared
    rcases List.suffix_cons_iff.mp isSuffix with whole | inHistory
    · obtain ⟨rfl, rfl⟩ := List.cons.inj whole
      simp [rejected] at declared
    · exact records.nodes other earlier kind signature inHistory declared
  roots := records.roots

/-- An accepted directive declares a child of the declaration that it is
nested in. -/
theorem openNode
    {directive : Directive}
    {kind : Kind}
    {signature : Signature}
    (records : Records history forest)
    (declared : directive.declared? = some (kind, signature))
    (current :
      forest.current? = Place.parent? ⟨directive, history⟩) :
    Records (directive :: history)
      (forest.openNode kind signature) where
  size := by
    simp [records.size, rank_cons, declared]
  nodes := by
    intro other earlier otherKind otherSignature isSuffix otherDeclared
    rcases List.suffix_cons_iff.mp isSuffix with whole | inHistory
    · obtain ⟨rfl, rfl⟩ := List.cons.inj whole
      rw [declared] at otherDeclared
      cases otherDeclared
      refine ⟨[], ?_⟩
      rw [← records.size, Forest.node?_openNode_size, current]
    · obtain ⟨children, found⟩ :=
        records.nodes other earlier otherKind otherSignature inHistory
          otherDeclared
      exact forest.exists_node?_openNode kind signature found
  roots := records.roots.openNode kind signature

end Records

namespace Builder

/-- A document that has taken in a history. -/
structure Follows
    (name : String)
    (rule : NestingRule)
    (history : List Directive)
    (builder : Builder) : Prop where
  name : builder.name = name
  rule : builder.forest.rule = rule
  coherent : builder.Coherent
  scopes :
    builder.scopes.map (fun scope => (scope.indent, scope.node)) =
      (openPlaces history).map fun place =>
        (place.directive.indent, place.node?)
  records : Records history builder.forest

namespace Follows

variable
  {name : String}
  {rule : NestingRule}
  {history : List Directive}
  {builder : Builder}

theorem start
    (name : String)
    (rule : NestingRule) :
    Follows name rule [] (Builder.start name rule) where
  name := rfl
  rule := rfl
  coherent := .start name rule
  scopes := rfl
  records := .empty rule

/-- Behind the scopes that a directive ends, the places around it are open. -/
theorem scopes_closeFrom
    (follows : Follows name rule history builder)
    (indent : Nat) :
    (builder.closeFrom indent).scopes.map
        (fun scope => (scope.indent, scope.node)) =
      (enclosing indent history).map fun place =>
        (place.directive.indent, place.node?) := by
  have ended :=
    congrArg
      (List.dropWhile fun outline : Nat × Option NodeId =>
        indent ≤ outline.1)
      follows.scopes
  rw [List.dropWhile_map, List.dropWhile_map] at ended
  rw [follows.coherent.closeFrom_eq, ← dropWhile_openPlaces]
  exact ended

/-- Ending scopes leaves the declarations of the places around open, and changes
nothing else about the forest. -/
theorem forest_closeFrom
    (follows : Follows name rule history builder)
    (indent : Nat) :
    (builder.closeFrom indent).forest =
      { builder.forest with
        scope := (enclosing indent history).filterMap Place.node? } := by
  have nodes :=
    congrArg (List.filterMap Prod.snd) (follows.scopes_closeFrom indent)
  rw [List.filterMap_map, List.filterMap_map,
    follows.coherent.closeFrom_eq] at nodes
  rw [follows.coherent.closeFrom_eq]
  exact congrArg (fun scope => { builder.forest with scope := scope }) nodes

theorem current?_closeFrom
    (follows : Follows name rule history builder)
    (directive : Directive) :
    (builder.closeFrom directive.indent).forest.current? =
      Place.parent? ⟨directive, history⟩ := by
  rw [follows.forest_closeFrom]
  rfl

/-- Ending scopes leaves the declarations alone. -/
theorem records_closeFrom
    (follows : Follows name rule history builder)
    (indent : Nat) :
    Records history (builder.closeFrom indent).forest := by
  rw [follows.forest_closeFrom]
  exact ⟨follows.records.size, follows.records.nodes,
    follows.records.roots⟩

/-- An accepted directive opens a declaration below the places around it, and a
rejected one leaves those open. -/
theorem forest_push
    (follows : Follows name rule history builder)
    (directive : Directive) :
    (builder.push directive).forest =
      let closed :=
        { builder.forest with
          scope :=
            (enclosing directive.indent history).filterMap Place.node? }
      match directive.declared? with
      | none =>
          closed
      | some (kind, signature) =>
          closed.openNode kind signature := by
  have closed := follows.forest_closeFrom directive.indent
  cases resolved : directive.resolve with
  | error problem =>
      rw [push_of_error resolved, Directive.declared?_of_error resolved]
      exact closed
  | ok declaration =>
      rw [push_of_ok resolved, accept_forest, closed,
        Directive.declared?_eq_some_iff.mpr resolved]

theorem push
    (follows : Follows name rule history builder)
    (directive : Directive) :
    Follows name rule (directive :: history)
      (builder.push directive) := by
  have scopes := follows.scopes_closeFrom directive.indent
  have current := follows.current?_closeFrom directive
  have coherent := follows.coherent.push directive
  have closed := follows.coherent.closeFrom_eq directive.indent
  have sameName :
      (builder.closeFrom directive.indent).name = name := by
    rw [closed]
    exact follows.name
  have sameRule :
      (builder.closeFrom directive.indent).forest.rule = rule := by
    rw [closed]
    exact follows.rule
  have records := follows.records_closeFrom directive.indent
  cases resolved : directive.resolve with
  | error problem =>
      have rejected := Directive.declared?_of_error resolved
      rw [push_of_error resolved] at coherent ⊢
      exact {
        name := sameName
        rule := sameRule
        coherent := coherent
        scopes := by
          simpa [Builder.reject, openPlaces, Place.node?, rejected]
            using scopes
        records := records.skip rejected
      }
  | ok declaration =>
      obtain ⟨kind, signature⟩ := declaration
      have declared := Directive.declared?_eq_some_iff.mpr resolved
      rw [push_of_ok resolved] at coherent ⊢
      obtain ⟨claim, opened⟩ :=
        @exists_accept_scopes (builder.closeFrom directive.indent)
          directive kind signature
      exact {
        name := by
          simp [sameName]
        rule := by
          simp [sameRule]
        coherent := coherent
        scopes := by
          simpa [opened, openPlaces, Place.node?, declared,
            records.size] using scopes
        records := by
          simpa using records.openNode declared current
      }

/-- Taking in directives one after the other follows them. -/
theorem foldl
    (follows : Follows name rule history builder)
    (directives : List Directive) :
    Follows name rule (directives.reverse ++ history)
      (directives.foldl Builder.push builder) := by
  induction directives generalizing history builder with
  | nil =>
      simpa using follows
  | cons directive directives inductionHypothesis =>
      simpa using inductionHypothesis (follows.push directive)

end Follows

end Builder

section Positions

variable
  {directives : List Directive}
  {directive : Directive}
  {position : Nat}

theorem length_take_reverse
    (here : directives[position]? = some directive) :
    (directives.take position).reverse.length = position := by
  have inBounds := (List.getElem?_eq_some_iff.mp here).1
  simp [Nat.le_of_lt inBounds]

/-- The positions around a directive are those of the accepted places around
it. -/
theorem encloses_iff
    (here : directives[position]? = some directive)
    {outer : Nat} :
    Encloses directives outer position ↔
      ∃ place ∈
          enclosing directive.indent (directives.take position).reverse,
        place.node? = some (rank (directives.take outer)) ∧
          place.earlier.length = outer := by
  constructor
  · rintro ⟨before, other, found, accepted, less⟩
    obtain ⟨declaration, declared⟩ := Option.isSome_iff_exists.mp accepted
    refine ⟨⟨other, (directives.take outer).reverse⟩, ?_, ?_, ?_⟩
    · exact mem_enclosing_of_position before here found less
    · simp [Place.node?, declared, rank_reverse]
    · exact length_take_reverse found
  · rintro ⟨place, member, isNode, rfl⟩
    obtain ⟨outer, before, found, earlier, less⟩ :=
      exists_position_of_mem_enclosing here member
    have sameOuter : place.earlier.length = outer := by
      rw [earlier]
      exact length_take_reverse found
    obtain ⟨declaration, declared, -⟩ := Option.map_eq_some_iff.mp isNode
    rw [sameOuter]
    exact ⟨before, place.directive, found, by simp [declared], less⟩

theorem not_encloses_of_parent?
    (here : directives[position]? = some directive)
    (noParent :
      Place.parent? ⟨directive, (directives.take position).reverse⟩ =
        none)
    (outer : Nat) :
    ¬ Encloses directives outer position := by
  intro encloses
  obtain ⟨place, member, isNode, -⟩ := (encloses_iff here).mp encloses
  rw [Place.parent?, List.head?_filterMap,
    List.findSome?_eq_none_iff] at noParent
  simp [noParent place member] at isNode

/-- The parent of a place stands at the last accepted position around it, since
the places around it are listed from the latest to the earliest. -/
theorem exists_last_of_parent?
    {parent : NodeId}
    (here : directives[position]? = some directive)
    (isParent :
      Place.parent? ⟨directive, (directives.take position).reverse⟩ =
        some parent) :
    ∃ outer,
      Encloses directives outer position ∧
        (∀ other, Encloses directives other position →
          other ≤ outer) ∧
        parent = rank (directives.take outer) := by
  rw [Place.parent?, List.head?_filterMap,
    List.findSome?_eq_some_iff] at isParent
  obtain ⟨inner, place, outer, shape, isNode, noneInner⟩ := isParent
  have member :
      place ∈ enclosing directive.indent
        (directives.take position).reverse := by
    simp [shape]
  obtain ⟨index, -, found, earlier, -⟩ :=
    exists_position_of_mem_enclosing here member
  have atIndex : place.earlier.length = index := by
    rw [earlier]
    exact length_take_reverse found
  have sameNode : parent = rank (directives.take index) := by
    obtain ⟨declaration, -, rfl⟩ := Option.map_eq_some_iff.mp isNode
    rw [earlier, rank_reverse]
  refine ⟨index, ?_, ?_, sameNode⟩
  · exact (encloses_iff here).mpr
      ⟨place, member, sameNode ▸ isNode, atIndex⟩
  · intro other encloses
    obtain ⟨otherPlace, otherMember, otherNode, rfl⟩ :=
      (encloses_iff here).mp encloses
    have ordered :=
      enclosing_ordered directive.indent
        (directives.take position).reverse
    rw [shape, List.pairwise_append, List.pairwise_cons] at ordered
    rw [shape, List.mem_append, List.mem_cons] at otherMember
    rcases otherMember with isInner | rfl | isOuter
    · simp [noneInner otherPlace isInner] at otherNode
    · exact Nat.le_of_eq atIndex
    · rw [← atIndex]
      exact Nat.le_of_lt (ordered.2.1.1 otherPlace isOuter)

/-- The declaration around a directive is that of the last accepted position
around it. -/
theorem parent?_eq_some_iff
    (here : directives[position]? = some directive)
    {parent : NodeId} :
    Place.parent? ⟨directive, (directives.take position).reverse⟩ =
        some parent ↔
      ∃ outer,
        Encloses directives outer position ∧
          (∀ other, Encloses directives other position →
            other ≤ outer) ∧
          parent = rank (directives.take outer) := by
  constructor
  · exact exists_last_of_parent? here
  · rintro ⟨outer, encloses, isLast, rfl⟩
    cases isParent :
        Place.parent?
          ⟨directive, (directives.take position).reverse⟩ with
    | none =>
        exact (not_encloses_of_parent? here isParent outer encloses).elim
    | some parent =>
        obtain ⟨other, otherEncloses, otherIsLast, rfl⟩ :=
          exists_last_of_parent? here isParent
        have same : other = outer :=
          Nat.le_antisymm (isLast other otherEncloses)
            (otherIsLast outer encloses)
        rw [same]

theorem parent?_eq_none_iff
    (here : directives[position]? = some directive) :
    Place.parent? ⟨directive, (directives.take position).reverse⟩ =
        none ↔
      ∀ outer, ¬ Encloses directives outer position := by
  refine ⟨not_encloses_of_parent? here, ?_⟩
  intro noneAround
  apply Option.eq_none_iff_forall_ne_some.mpr
  intro parent isParent
  obtain ⟨outer, encloses, -⟩ := (parent?_eq_some_iff here).mp isParent
  exact noneAround outer encloses

theorem suffix_reverse
    (here : directives[position]? = some directive) :
    directive :: (directives.take position).reverse <:+
      directives.reverse := by
  refine ⟨(directives.drop (position + 1)).reverse, ?_⟩
  have whole := eq_take_append_cons_drop here
  have reversed := congrArg List.reverse whole
  simpa using reversed.symm

end Positions

/-- The forest of a finished document records all its directives. -/
theorem records_ofDirectives
    (name : String)
    (rule : NestingRule)
    (directives : List Directive) :
    Records directives.reverse
      (ofDirectives name rule directives).forest := by
  have follows := (Builder.Follows.start name rule).foldl directives
  rw [List.append_nil] at follows
  rw [ofDirectives, follows.coherent.finish_eq]
  exact ⟨follows.records.size, follows.records.nodes,
    follows.records.roots⟩

/-- There is one declaration for every accepted directive, identified by the
number of accepted directives before it.  Its parent is the declaration of the
last accepted directive before it that is indented less than everything behind
up to it, and it is a root if there is none. -/
theorem parent_eq_last_enclosing
    (name : String)
    (rule : NestingRule)
    (directives : List Directive) :
    let forest := (ofDirectives name rule directives).forest
    forest.size = rank directives ∧
      ∀ position directive kind signature,
        directives[position]? = some directive →
          directive.declared? = some (kind, signature) →
            ∃ node,
              forest.node? (rank (directives.take position)) =
                  some node ∧
                node.kind = kind ∧ node.signature = signature ∧
                (∀ parent,
                  node.parent = some parent ↔
                    ∃ outer,
                      Encloses directives outer position ∧
                        (∀ other,
                          Encloses directives other position →
                            other ≤ outer) ∧
                        parent = rank (directives.take outer)) ∧
                (rank (directives.take position) ∈ forest.roots ↔
                  ∀ outer, ¬ Encloses directives outer position) := by
  have records := records_ofDirectives name rule directives
  refine ⟨by rw [records.size, rank_reverse], ?_⟩
  intro position directive kind signature here declared
  obtain ⟨children, found⟩ :=
    records.nodes directive (directives.take position).reverse kind
      signature (suffix_reverse here) declared
  rw [rank_reverse] at found
  refine ⟨_, found, rfl, rfl, ?_, ?_⟩
  · intro parent
    exact parent?_eq_some_iff here
  · rw [records.roots, found, Option.map_some, Option.some.injEq]
    exact parent?_eq_none_iff here

/-- A class behind a dedent to a new column and behind a rejected method is
nested in the class around both. -/
theorem parent_behind_rejected_directive :
    let directives : List Directive :=
      [⟨1, 2, "class", "Shape"⟩, ⟨2, 6, "class", "Edge"⟩,
        ⟨3, 4, "method", "area("⟩, ⟨4, 5, "class", "Corner"⟩]
    (directives.map (·.declared?.isSome) = [true, true, false, true] ∧
      Encloses directives 0 3) ∧
      ∃ node,
        (ofDirectives "shapes" .legacy directives).forest.node? 2 =
            some node ∧
          node.kind = .classType ∧ node.parent = some 0 := by
  intro directives
  have verdicts :
      directives.map (·.declared?.isSome) =
        [true, true, false, true] := by
    decide +kernel
  have declared :
      (Directive.mk 4 5 "class" "Corner").declared? =
        some (.classType, ⟨"Corner", none, "Corner", none⟩) := by
    decide +kernel
  have before : rank (directives.take 3) = 2 := by
    decide +kernel
  have around : Encloses directives 0 3 := by
    refine ⟨by decide, _, rfl, by decide +kernel, ?_⟩
    intro position other behind notBehind found
    interval_cases position <;> cases found <;> decide
  have isLast :
      ∀ other, Encloses directives other 3 → other ≤ 0 := by
    rintro other ⟨before, directive, found, accepted, less⟩
    interval_cases other
    · decide
    · cases found
      exact absurd (less 2 _ (by decide) (by decide) rfl) (by decide)
    · cases found
      exact absurd accepted (by decide +kernel)
  obtain ⟨-, nodes⟩ :=
    parent_eq_last_enclosing "shapes" .legacy directives
  obtain ⟨node, found, isKind, -, parent, -⟩ :=
    nodes 3 ⟨4, 5, "class", "Corner"⟩ _ _ rfl declared
  rw [before] at found
  refine ⟨⟨verdicts, around⟩, node, found, isKind, ?_⟩
  exact (parent 0).mpr ⟨0, around, isLast, rfl⟩

end ApiIndex.Document

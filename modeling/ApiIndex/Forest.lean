import ApiIndex.Naming
import ApiIndex.Signature.Basic

namespace ApiIndex

/-!
# Forests of declarations

Declarations are opened in document order and numbered from zero.  A
declaration becomes the last child of the innermost one that is still open, or
a further root.  Its qualified name is composed of the full names of the
ancestors that contribute under the nesting rule, outermost first, and its own
full name.
-/

/-- A declaration is identified by the number of declarations before it. -/
abbrev NodeId :=
  Nat

/-- One declaration with its place in the forest. -/
structure Node where
  kind : Kind
  signature : Signature
  parent : Option NodeId
  children : List NodeId
  deriving Repr, DecidableEq

/-- Declarations in opening order, the roots among them, and the chain of open
declarations, innermost first. -/
structure Forest where
  rule : NestingRule := .legacy
  nodes : List Node := []
  roots : List NodeId := []
  scope : List NodeId := []
  deriving Repr, DecidableEq

/-- Append a child to a node. -/
def Node.addChild
    (node : Node)
    (child : NodeId) :
    Node :=
  { node with children := node.children ++ [child] }

namespace Forest

/-- The number of declarations. -/
def size
    (forest : Forest) :
    Nat :=
  forest.nodes.length

/-- The number of open declarations. -/
def depth
    (forest : Forest) :
    Nat :=
  forest.scope.length

/-- The innermost open declaration. -/
def current?
    (forest : Forest) :
    Option NodeId :=
  forest.scope.head?

/-- Open a declaration inside the innermost open one.  Its identifier is the
size of the forest before. -/
def openNode
    (forest : Forest)
    (kind : Kind)
    (signature : Signature) :
    Forest :=
  let opened : Node := ⟨kind, signature, forest.current?, []⟩
  match forest.current? with
  | some parent =>
      { forest with
        nodes :=
          forest.nodes.modify parent (·.addChild forest.size) ++ [opened]
        scope := forest.size :: forest.scope }
  | none =>
      { forest with
        nodes := forest.nodes ++ [opened]
        roots := forest.roots ++ [forest.size]
        scope := forest.size :: forest.scope }

/-- Close the innermost open declaration, if there is one. -/
def closeNode
    (forest : Forest) :
    Forest :=
  { forest with scope := forest.scope.tail }

/-- The declaration with an identifier. -/
def node?
    (forest : Forest)
    (id : NodeId) :
    Option Node :=
  forest.nodes[id]?

/-- The parent of a declaration. -/
def parent?
    (forest : Forest)
    (id : NodeId) :
    Option NodeId :=
  (forest.node? id).bind (·.parent)

/-- The children of a declaration, in opening order. -/
def children
    (forest : Forest)
    (id : NodeId) :
    List NodeId :=
  match forest.node? id with
  | some node =>
      node.children
  | none =>
      []

/-- Follow at most `steps` parents upwards from an identifier. -/
def climb
    (forest : Forest) :
    Nat →
      Option NodeId →
      List Node
  | 0, _ =>
      []
  | _ + 1, none =>
      []
  | steps + 1, some id =>
      match forest.node? id with
      | none =>
          []
      | some node =>
          node :: climb forest steps node.parent

/-- The ancestors of a node, nearest first.  No chain of parents is longer than
the forest. -/
def ancestors
    (forest : Forest)
    (node : Node) :
    List Node :=
  forest.climb forest.size node.parent

/-- The segments of the qualified name of a declaration, outermost first. -/
def segments?
    (forest : Forest)
    (id : NodeId) :
    Option (List String) :=
  (forest.node? id).map fun node =>
    (((forest.ancestors node).filter fun ancestor =>
        forest.rule.contributes ancestor.kind).map
          fun ancestor => ancestor.signature.fullName).reverse ++
      [node.signature.fullName]

/-- The qualified name of a declaration. -/
def qualifiedName?
    (forest : Forest)
    (id : NodeId) :
    Option String :=
  (forest.segments? id).map NestingRule.render

end Forest

end ApiIndex

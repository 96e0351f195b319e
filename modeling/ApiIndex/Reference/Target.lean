import ApiIndex.Kind

namespace ApiIndex.Reference

/-!
# Reference targets

A reference leads to the place where a declaration is documented.  It is looked
up by the kind and the qualified name of the declaration, because one name may
be declared once for every kind.
-/

/-- What a reference is looked up by. -/
structure Key where
  kind : Kind
  name : String
  deriving Repr, DecidableEq

/-- Where a declaration is documented. -/
structure Target where
  /-- The name of the document. -/
  document : String
  /-- The line of the declaring directive, counted from one. -/
  line : Nat
  /-- The anchor that a link to the declaration leads to. -/
  anchor : String
  deriving Repr, DecidableEq

/-- A key as messages show it. -/
def Key.display
    (key : Key) :
    String :=
  key.kind.name ++ " \"" ++ key.name ++ "\""

/-- The anchor of a declaration. -/
def Key.anchor
    (key : Key) :
    String :=
  "dn-" ++ key.kind.name ++ "-" ++ key.name

/-- The target of a declaration with the given key. -/
def Target.ofKey
    (document : String)
    (line : Nat)
    (key : Key) :
    Target :=
  ⟨document, line, key.anchor⟩

/-- A target as messages show it. -/
def Target.display
    (target : Target) :
    String :=
  target.document ++ ":" ++ target.line.repr ++ "#" ++ target.anchor

end ApiIndex.Reference

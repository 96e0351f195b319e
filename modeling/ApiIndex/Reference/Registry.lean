import ApiIndex.Reference.Target

namespace ApiIndex.Reference

/-!
# The registry of references

A registry lists keys with their targets in the order of registration.  It is
write-once: a key that is already present keeps its target, and the second
registration comes back as a duplicate that carries the stored target.
-/

/-- One registered key with its target. -/
structure Entry where
  key : Key
  target : Target
  deriving Repr, DecidableEq

/-- The registered entries, oldest first. -/
structure Registry where
  entries : List Entry := []
  deriving Repr, DecidableEq

/-- A second registration of a key, with the target that stays. -/
structure Duplicate where
  key : Key
  existing : Target
  deriving Repr, DecidableEq

/-- The wording of a duplicate. -/
def Duplicate.message
    (duplicate : Duplicate) :
    String :=
  "Duplicate reference target: " ++ duplicate.key.display ++
    " (first declared at " ++ duplicate.existing.display ++ ")"

/-- A target that a merge rejected, with the duplicate that explains it. -/
structure Collision where
  rejected : Target
  duplicate : Duplicate
  deriving Repr, DecidableEq

namespace Registry

/-- The number of registered keys. -/
def size
    (registry : Registry) :
    Nat :=
  registry.entries.length

/-- The registered keys, oldest first. -/
def keys
    (registry : Registry) :
    List Key :=
  registry.entries.map (·.key)

/-- The target of a key. -/
def find?
    (registry : Registry)
    (key : Key) :
    Option Target :=
  (registry.entries.find? (·.key == key)).map (·.target)

/-- Whether a key is registered. -/
def contains
    (registry : Registry)
    (key : Key) :
    Bool :=
  (registry.find? key).isSome

/-- Register a key, unless it already has a target. -/
def register
    (registry : Registry)
    (key : Key)
    (target : Target) :
    Except Duplicate Registry :=
  match registry.find? key with
  | some existing =>
      .error ⟨key, existing⟩
  | none =>
      .ok ⟨registry.entries ++ [⟨key, target⟩]⟩

/-- Every kind that is registered under a name, oldest first. -/
def findAny
    (registry : Registry)
    (name : String) :
    List (Kind × Target) :=
  (registry.entries.filter (·.key.name == name)).map fun entry =>
    (entry.key.kind, entry.target)

/-- The first of the given kinds that is registered under a name. -/
def resolve?
    (registry : Registry)
    (name : String)
    (kinds : List Kind) :
    Option (Kind × Target) :=
  kinds.findSome? fun kind =>
    (registry.find? ⟨kind, name⟩).map fun target => (kind, target)

/-- Register entries one after the other and collect those whose key was
taken. -/
def mergeEntries :
    Registry →
      List Entry →
      Registry × List Collision
  | registry, [] =>
      (registry, [])
  | registry, entry :: rest =>
      match registry.register entry.key entry.target with
      | .ok extended =>
          mergeEntries extended rest
      | .error duplicate =>
          let (merged, collisions) := mergeEntries registry rest
          (merged, ⟨entry.target, duplicate⟩ :: collisions)

/-- Fold another registry into this one, in the order of the other. -/
def merge
    (registry other : Registry) :
    Registry × List Collision :=
  mergeEntries registry other.entries

/-- Whether two registries map the same keys to the same targets, in whatever
order. -/
def agrees
    (left right : Registry) :
    Bool :=
  left.size == right.size &&
    left.entries.all fun entry => right.find? entry.key == some entry.target

end Registry

end ApiIndex.Reference

import ApiIndex.Proofs.Reference.Merge
import Mathlib.Logic.Function.Basic

namespace ApiIndex.Reference

/-!
# Registries are write-once

Registries stand side by side, all empty at the start.  An operation registers a
key in one of them, or merges a copy of one into another one or into itself.
Either way it appends entries with new keys to one registry and leaves all others
alone.  So no key ever comes twice in a registry, and a key that has a target
keeps it, whatever follows.
-/

/-- One operation on registries that stand side by side. -/
inductive Operation (Slot : Type) where
  | register (slot : Slot) (key : Key) (target : Target)
  /-- Merge a copy of the registry in the slot `other`. -/
  | merge (slot other : Slot)
  deriving Repr, DecidableEq

/-- What an operation reports. -/
inductive Answer where
  | registered
  | duplicate (duplicate : Duplicate)
  | merged (collisions : List Collision)
  deriving Repr, DecidableEq

/-- Registries side by side, each in a slot of its own. -/
abbrev Shelf (Slot : Type) :=
  Slot → Registry

namespace Shelf

variable {Slot : Type} [DecidableEq Slot]

/-- The registries behind an operation, and what the operation reports. -/
def perform
    (shelf : Shelf Slot) :
    Operation Slot →
      Shelf Slot × Answer
  | .register slot key target =>
      match (shelf slot).register key target with
      | .ok registry =>
          (Function.update shelf slot registry, .registered)
      | .error duplicate =>
          (shelf, .duplicate duplicate)
  | .merge slot other =>
      let (registry, collisions) := (shelf slot).merge (shelf other)
      (Function.update shelf slot registry, .merged collisions)

/-- The registries behind operations, all empty before the first. -/
def filled
    (operations : List (Operation Slot)) :
    Shelf Slot :=
  operations.foldl (fun shelf operation => (shelf.perform operation).1)
    fun _ => {}

/-- No registry has a key twice. -/
def Unique
    (shelf : Shelf Slot) :
    Prop :=
  ∀ slot, (shelf slot).keys.Nodup

variable {shelf : Shelf Slot}

section Step

/-- Registering a key that has a target changes nothing and reports that
target; a key without one is appended. -/
theorem perform_register
    (slot : Slot)
    (key : Key)
    (target : Target) :
    shelf.perform (.register slot key target) =
      match (shelf slot).find? key with
      | some existing =>
          (shelf, .duplicate ⟨key, existing⟩)
      | none =>
          (Function.update shelf slot
              ⟨(shelf slot).entries ++ [⟨key, target⟩]⟩,
            .registered) := by
  cases found : (shelf slot).find? key with
  | some existing =>
      simp only [perform, Registry.register_of_find? found]
  | none =>
      have absent := Registry.find?_eq_none_iff.mp found
      simp only [perform, Registry.register_of_not_mem absent]

/-- Merging appends the entries whose keys are lacking and reports all
others. -/
theorem perform_merge
    (unique : shelf.Unique)
    (slot other : Slot) :
    shelf.perform (.merge slot other) =
      (Function.update shelf slot
          ⟨(shelf slot).entries ++
            (shelf slot).lacking (shelf other).entries⟩,
        .merged ((shelf slot).colliding (shelf other).entries)) := by
  simp only [perform, Registry.merge,
    Registry.mergeEntries_eq (unique other)]

/-- Whatever an operation does, it appends entries with new keys to one
registry. -/
theorem exists_perform_eq
    (unique : shelf.Unique)
    (operation : Operation Slot) :
    ∃ slot more,
      (shelf.perform operation).1 =
          Function.update shelf slot ⟨(shelf slot).entries ++ more⟩ ∧
        (Registry.keys ⟨(shelf slot).entries ++ more⟩).Nodup := by
  cases operation with
  | register slot key target =>
      rw [perform_register]
      cases found : (shelf slot).find? key with
      | some existing =>
          refine ⟨slot, [], ?_, ?_⟩
          · simp
          · simpa using unique slot
      | none =>
          refine ⟨slot, [⟨key, target⟩], rfl, ?_⟩
          rw [Registry.keys, List.map_append, List.map_singleton,
            ← List.concat_eq_append]
          exact (List.nodup_concat _ _).mpr
            ⟨Registry.find?_eq_none_iff.mp found, unique slot⟩
  | merge slot other =>
      rw [perform_merge unique]
      exact ⟨slot, _, rfl,
        Registry.nodup_keys_append_lacking (unique slot)
          (unique other)⟩

theorem Unique.perform
    (unique : shelf.Unique)
    (operation : Operation Slot) :
    (shelf.perform operation).1.Unique := by
  obtain ⟨changed, more, performed, changedUnique⟩ :=
    exists_perform_eq unique operation
  rw [performed]
  intro slot
  by_cases isChanged : slot = changed
  · subst slot
    rw [Function.update_self]
    exact changedUnique
  · rw [Function.update_of_ne isChanged]
    exact unique slot

/-- What a registry lists stays in front of what it lists after an
operation. -/
theorem entries_prefix_perform
    (unique : shelf.Unique)
    (operation : Operation Slot)
    (slot : Slot) :
    (shelf slot).entries <+:
      ((shelf.perform operation).1 slot).entries := by
  obtain ⟨changed, more, performed, -⟩ :=
    exists_perform_eq unique operation
  rw [performed]
  by_cases isChanged : slot = changed
  · subst slot
    rw [Function.update_self]
    exact List.prefix_append _ _
  · simp [Function.update_of_ne isChanged]

end Step

section Run

variable (operations : List (Operation Slot))

theorem filled_append_singleton
    (operation : Operation Slot) :
    filled (operations ++ [operation]) =
      ((filled operations).perform operation).1 := by
  rw [filled, List.foldl_append]
  rfl

theorem unique_filled :
    (filled operations).Unique := by
  induction operations using List.reverseRecOn with
  | nil =>
      exact fun _ => .nil
  | append_singleton operations operation inductionHypothesis =>
      rw [filled_append_singleton]
      exact inductionHypothesis.perform operation

/-- What a registry lists stays in front of all that it lists later. -/
theorem entries_prefix_filled
    (more : List (Operation Slot))
    (slot : Slot) :
    (filled operations slot).entries <+:
      (filled (operations ++ more) slot).entries := by
  induction more using List.reverseRecOn with
  | nil =>
      simp
  | append_singleton more operation inductionHypothesis =>
      rw [← List.append_assoc, filled_append_singleton]
      exact inductionHypothesis.trans
        (entries_prefix_perform (unique_filled _) operation slot)

end Run

/-- Registries are write-once, whatever is done to them.  No key comes twice in
one.  An operation keeps what was listed in front, so a key that has a target
has the same one ever after.  Registering such a key leaves all registries as
they are and reports the target.  Merging appends exactly the entries whose keys
are lacking, in their order, and reports exactly the others, in their order,
each with the target that stays.  At any time, looking up a key, listing the
kinds of a name and resolving a name agree with each other. -/
theorem filled_writeOnce
    (operations : List (Operation Slot)) :
    let shelf := filled operations
    (∀ slot, (shelf slot).keys.Nodup) ∧
      (∀ operation slot,
        (shelf slot).entries <+:
          ((shelf.perform operation).1 slot).entries) ∧
      (∀ more slot key target,
        (shelf slot).find? key = some target →
          (filled (operations ++ more) slot).find? key = some target) ∧
      (∀ slot key target,
        shelf.perform (.register slot key target) =
          match (shelf slot).find? key with
          | some existing =>
              (shelf, .duplicate ⟨key, existing⟩)
          | none =>
              (Function.update shelf slot
                  ⟨(shelf slot).entries ++ [⟨key, target⟩]⟩,
                .registered)) ∧
      (∀ slot other,
        shelf.perform (.merge slot other) =
          (Function.update shelf slot
              ⟨(shelf slot).entries ++
                (shelf slot).lacking (shelf other).entries⟩,
            .merged ((shelf slot).colliding (shelf other).entries))) ∧
      ∀ slot name,
        (∀ kind target,
          (shelf slot).find? ⟨kind, name⟩ = some target ↔
            (kind, target) ∈ (shelf slot).findAny name) ∧
          (((shelf slot).findAny name).map Prod.fst).Nodup ∧
          (((shelf slot).resolve? name Kind.all).isSome ↔
            (shelf slot).findAny name ≠ []) := by
  intro shelf
  have unique : shelf.Unique := unique_filled operations
  refine ⟨unique, entries_prefix_perform unique, ?_, perform_register,
    perform_merge unique, ?_⟩
  · intro more slot key target found
    exact Registry.find?_of_prefix
      (entries_prefix_filled operations more slot) found
  · intro slot name
    exact ⟨fun kind target =>
        Registry.find?_eq_some_iff_mem_findAny (unique slot),
      Registry.nodup_kinds_findAny (unique slot),
      Registry.isSome_resolve?_all_iff⟩

/-- A class keeps its target when it is registered again and when a registry
with another target of it is merged. -/
theorem target_kept_by_registration_and_merge :
    let shape : Key := ⟨.classType, "Shape"⟩
    let here : Target := .ofKey "shapes" 1 shape
    let there : Target := .ofKey "edges" 7 shape
    let operations : List (Operation Bool) :=
      [.register true shape here, .register false shape there]
    let shelf := filled operations
    shelf true ≠ shelf false ∧
      (filled (operations ++
          [.register true shape there, .merge true false,
            .merge true true]) true).find? shape = some here ∧
      (shelf.perform (.merge true false)).2 =
        .merged [⟨there, ⟨shape, here⟩⟩] := by
  intro shape here there operations shelf
  obtain ⟨-, -, kept, -, merged, -⟩ := filled_writeOnce operations
  refine ⟨by decide +kernel, kept _ true shape here (by decide +kernel), ?_⟩
  rw [merged true false]
  decide +kernel

end Shelf

end ApiIndex.Reference

import ApiIndex.Reference.Registry
import Mathlib.Data.List.Nodup

namespace ApiIndex.Reference.Registry

/-!
# Looking up and registering keys

Registering succeeds exactly for a key that is not present, and appends it.  As
long as no key comes twice, looking up a key finds the one entry that has it,
in whatever order the entries stand.
-/

variable {registry : Registry} {key : Key} {target : Target}

theorem find?_eq_none_iff :
    registry.find? key = none ↔ key ∉ registry.keys := by
  simp [find?, keys, List.find?_eq_none]

theorem mem_entries_of_find?
    (found : registry.find? key = some target) :
    ⟨key, target⟩ ∈ registry.entries := by
  obtain ⟨⟨foundKey, foundTarget⟩, isFirst, rfl⟩ :=
    Option.map_eq_some_iff.mp found
  have sameKey : foundKey = key := by
    simpa using List.find?_some isFirst
  subst sameKey
  exact List.mem_of_find?_eq_some isFirst

/-- Where no key comes twice, every entry is found. -/
theorem find?_eq_some_iff
    (unique : registry.keys.Nodup) :
    registry.find? key = some target ↔
      ⟨key, target⟩ ∈ registry.entries := by
  refine ⟨mem_entries_of_find?, ?_⟩
  intro member
  cases found : registry.find? key with
  | none =>
      have present : key ∈ registry.keys :=
        List.mem_map.mpr ⟨_, member, rfl⟩
      exact (find?_eq_none_iff.mp found present).elim
  | some other =>
      have same :=
        List.inj_on_of_nodup_map unique (mem_entries_of_find? found)
          member rfl
      rw [(Entry.mk.inj same).2]

/-- Registries with the same entries in another order answer alike. -/
theorem find?_eq_of_perm
    {other : Registry}
    (unique : registry.keys.Nodup)
    (reordered : registry.entries.Perm other.entries) :
    registry.find? key = other.find? key := by
  have otherUnique : other.keys.Nodup :=
    (reordered.map Entry.key).nodup_iff.mp unique
  apply Option.ext
  intro target
  rw [find?_eq_some_iff unique, find?_eq_some_iff otherUnique,
    reordered.mem_iff]

theorem register_of_not_mem
    (absent : key ∉ registry.keys) :
    registry.register key target =
      .ok ⟨registry.entries ++ [⟨key, target⟩]⟩ := by
  rw [register, find?_eq_none_iff.mpr absent]

theorem register_of_find?
    {existing : Target}
    (found : registry.find? key = some existing) :
    registry.register key target = .error ⟨key, existing⟩ := by
  rw [register, found]

theorem find?_append_singleton
    (other : Key) :
    (Registry.mk (registry.entries ++ [⟨key, target⟩])).find? other =
      (registry.find? other).or
        (if key = other then some target else none) := by
  simp only [find?, List.find?_append, Option.map_or]
  by_cases same : key = other <;> simp [same]

section Names

variable {kind : Kind} {name : String}

theorem mem_findAny_iff :
    (kind, target) ∈ registry.findAny name ↔
      ⟨⟨kind, name⟩, target⟩ ∈ registry.entries := by
  simp only [findAny, List.mem_map, List.mem_filter, beq_iff_eq,
    Prod.mk.injEq]
  constructor
  · rintro ⟨entry, ⟨member, rfl⟩, rfl, rfl⟩
    exact member
  · intro member
    exact ⟨_, ⟨member, rfl⟩, rfl, rfl⟩

/-- Where no key comes twice, a name is found under a kind exactly if the kind
is listed for the name. -/
theorem find?_eq_some_iff_mem_findAny
    (unique : registry.keys.Nodup) :
    registry.find? ⟨kind, name⟩ = some target ↔
      (kind, target) ∈ registry.findAny name :=
  (find?_eq_some_iff unique).trans mem_findAny_iff.symm

/-- Where no key comes twice, no kind is listed twice for a name. -/
theorem nodup_kinds_findAny
    (unique : registry.keys.Nodup) :
    ((registry.findAny name).map Prod.fst).Nodup := by
  have kinds :
      (registry.findAny name).map Prod.fst =
        ((registry.entries.filter (·.key.name == name)).map
          Entry.key).map Key.kind := by
    simp [findAny]
  have uniqueHere :
      ((registry.entries.filter (·.key.name == name)).map
        Entry.key).Nodup :=
    unique.sublist (List.filter_sublist.map Entry.key)
  rw [kinds]
  refine uniqueHere.map_on ?_
  -- Keys with the same name differ in their kinds.
  intro first isFirst second isSecond sameKind
  obtain ⟨entry, member, rfl⟩ := List.mem_map.mp isFirst
  obtain ⟨other, otherMember, rfl⟩ := List.mem_map.mp isSecond
  have hasName := (List.mem_filter.mp member).2
  have otherHasName := (List.mem_filter.mp otherMember).2
  rw [beq_iff_eq] at hasName otherHasName
  cases keyShape : entry.key
  cases otherShape : other.key
  simp_all

/-- A name is resolved among all kinds exactly if some kind is listed for
it. -/
theorem isSome_resolve?_all_iff :
    (registry.resolve? name Kind.all).isSome ↔
      registry.findAny name ≠ [] := by
  rw [resolve?, List.findSome?_isSome_iff]
  constructor
  · rintro ⟨kind, -, isFound⟩
    rw [Option.isSome_map, Option.isSome_iff_exists] at isFound
    obtain ⟨target, found⟩ := isFound
    exact List.ne_nil_of_mem
      (mem_findAny_iff.mpr (mem_entries_of_find? found))
  · intro someListed
    obtain ⟨⟨kind, target⟩, listed⟩ :=
      List.exists_mem_of_ne_nil _ someListed
    have present : ⟨kind, name⟩ ∈ registry.keys :=
      List.mem_map_of_mem (mem_findAny_iff.mp listed)
    refine ⟨kind, Kind.mem_all kind, ?_⟩
    rw [Option.isSome_map, Option.isSome_iff_ne_none, Ne,
      find?_eq_none_iff]
    exact not_not_intro present

end Names

end ApiIndex.Reference.Registry

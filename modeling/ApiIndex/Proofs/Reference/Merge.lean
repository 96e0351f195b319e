import ApiIndex.Proofs.Reference.Registry
import Mathlib.Data.List.Induction

namespace ApiIndex.Reference.Registry

/-!
# Merging registries

Merging a registry whose keys are distinct into another appends the entries
whose keys the other lacks and turns down the rest, each with the target that
stays.  Merging registries one after the other therefore keeps, of all their
entries behind each other, the first one of every key.
-/

/-- The entries whose keys a registry lacks. -/
def lacking
    (registry : Registry)
    (entries : List Entry) :
    List Entry :=
  entries.filter fun entry => (registry.find? entry.key).isNone

/-- The entries whose keys a registry has, with the targets that stay. -/
def colliding
    (registry : Registry)
    (entries : List Entry) :
    List Collision :=
  entries.filterMap fun entry =>
    (registry.find? entry.key).map fun existing =>
      ⟨entry.target, ⟨entry.key, existing⟩⟩

/-- The entries of which no earlier one has the same key. -/
def distinct
    (entries : List Entry) :
    List Entry :=
  entries.eraseDupsBy fun later earlier => later.key == earlier.key

section Answers

variable {registry other : Registry} {entries : List Entry}

/-- What is lacking depends only on what the registry answers. -/
theorem lacking_congr
    (sameAnswers :
      ∀ entry ∈ entries,
        registry.find? entry.key = other.find? entry.key) :
    registry.lacking entries = other.lacking entries := by
  apply List.filter_congr
  intro entry member
  rw [sameAnswers entry member]

/-- What collides depends only on what the registry answers. -/
theorem colliding_congr
    (sameAnswers :
      ∀ entry ∈ entries,
        registry.find? entry.key = other.find? entry.key) :
    registry.colliding entries = other.colliding entries := by
  apply List.filterMap_congr
  intro entry member
  rw [sameAnswers entry member]

/-- Every entry is either lacking or colliding. -/
theorem length_lacking_add_length_colliding
    (registry : Registry)
    (entries : List Entry) :
    (registry.lacking entries).length +
        (registry.colliding entries).length =
      entries.length := by
  induction entries with
  | nil =>
      rfl
  | cons entry rest inductionHypothesis =>
      simp only [lacking, colliding] at inductionHypothesis ⊢
      cases found : registry.find? entry.key with
      | none =>
          simp [found]
          omega
      | some existing =>
          simp [found]
          omega

/-- Entries behind others answer only where the others do not. -/
theorem find?_append
    (left right : List Entry)
    (key : Key) :
    find? ⟨left ++ right⟩ key =
      (find? ⟨left⟩ key).or (find? ⟨right⟩ key) := by
  simp only [find?, List.find?_append, Option.map_or]

end Answers

/-- Entries with distinct keys are registered or turned down by what the
registry has before the first of them. -/
theorem mergeEntries_eq
    {registry : Registry}
    {entries : List Entry}
    (unique : (entries.map Entry.key).Nodup) :
    registry.mergeEntries entries =
      (⟨registry.entries ++ registry.lacking entries⟩,
        registry.colliding entries) := by
  induction entries generalizing registry with
  | nil =>
      simp [mergeEntries, lacking, colliding]
  | cons entry rest inductionHypothesis =>
      rw [List.map_cons, List.nodup_cons] at unique
      obtain ⟨notLater, restUnique⟩ := unique
      cases found : registry.find? entry.key with
      | some existing =>
          rw [mergeEntries, register_of_find? found]
          simp [inductionHypothesis restUnique, lacking, colliding, found]
      | none =>
          -- The new entry answers for none of the later ones.
          have sameAnswers :
              ∀ later ∈ rest,
                find? ⟨registry.entries ++ [entry]⟩ later.key =
                  registry.find? later.key := by
            intro later member
            have different : entry.key ≠ later.key := by
              intro same
              exact notLater (same ▸ List.mem_map_of_mem member)
            rw [find?_append_singleton]
            simp [different]
          rw [mergeEntries,
            register_of_not_mem (find?_eq_none_iff.mp found)]
          simp only [inductionHypothesis restUnique,
            lacking_congr sameAnswers, colliding_congr sameAnswers]
          simp [lacking, colliding, found]

/-- The entries that a registry lacks bring no key twice into it. -/
theorem nodup_keys_append_lacking
    {registry : Registry}
    {entries : List Entry}
    (unique : registry.keys.Nodup)
    (otherUnique : (entries.map Entry.key).Nodup) :
    (keys ⟨registry.entries ++ registry.lacking entries⟩).Nodup := by
  rw [keys, List.map_append, List.nodup_append]
  refine ⟨unique, otherUnique.sublist (List.filter_sublist.map _), ?_⟩
  intro key present other isLacking same
  obtain ⟨entry, member, rfl⟩ := List.mem_map.mp isLacking
  have absent := (List.mem_filter.mp member).2
  rw [Option.isNone_iff_eq_none, find?_eq_none_iff] at absent
  exact absent (same ▸ present)

/-- What a registry answers stays when entries are appended. -/
theorem find?_of_prefix
    {registry later : Registry}
    {key : Key}
    {target : Target}
    (isPrefix : registry.entries <+: later.entries)
    (found : registry.find? key = some target) :
    later.find? key = some target := by
  obtain ⟨entries⟩ := registry
  obtain ⟨laterEntries⟩ := later
  obtain ⟨more, rfl⟩ := isPrefix
  rw [find?_append, found, Option.some_or]

section Distinct

/-- Entries with distinct keys are all kept. -/
theorem distinct_eq_self
    {entries : List Entry}
    (unique : (entries.map Entry.key).Nodup) :
    distinct entries = entries := by
  induction entries with
  | nil =>
      rfl
  | cons entry rest inductionHypothesis =>
      rw [List.map_cons, List.nodup_cons] at unique
      obtain ⟨notLater, restUnique⟩ := unique
      have noneDropped :
          (rest.filter fun later => (later.key == entry.key) = false) =
            rest := by
        apply List.filter_eq_self.mpr
        intro later member
        have different : later.key ≠ entry.key := by
          intro same
          exact notLater (same ▸ List.mem_map_of_mem member)
        simpa using different
      rw [distinct, List.eraseDupsBy_cons, noneDropped]
      exact congrArg (entry :: ·) (inductionHypothesis restUnique)

/-- Without the entries that have the key of the first, neither side changes
what is lacking. -/
private theorem lacking_filter
    (entry : Entry)
    (rest entries : List Entry) :
    lacking
        ⟨rest.filter fun later => (later.key == entry.key) = false⟩
        (entries.filter fun later =>
          (later.key == entry.key) = false) =
      lacking ⟨entry :: rest⟩ entries := by
  rw [lacking, lacking, List.filter_filter]
  apply List.filter_congr
  intro later member
  by_cases same : later.key = entry.key
  · simp [same, find?]
  · have different : ¬ entry.key = later.key := fun other =>
      same other.symm
    have sameAnswer :
        find? ⟨rest.filter fun other =>
            (other.key == entry.key) = false⟩ later.key =
          find? ⟨entry :: rest⟩ later.key := by
      apply congrArg (Option.map Entry.target)
      rw [List.find?_cons_of_neg (by simpa using different),
        List.find?_filter]
      congr 1
      funext other
      by_cases here : other.key = later.key <;> simp [here, same]
    rw [sameAnswer]
    simp [same]

/-- Behind other entries, entries with distinct keys are kept if the others
lack their keys. -/
theorem distinct_append
    {left right : List Entry}
    (unique : (right.map Entry.key).Nodup) :
    distinct (left ++ right) =
      distinct left ++ lacking ⟨left⟩ right := by
  induction size : left.length using Nat.strongRecOn
      generalizing left right with
  | ind length inductionHypothesis =>
      cases left with
      | nil =>
          have allLacking : lacking ⟨[]⟩ right = right := by
            simp [lacking, find?]
          rw [allLacking, List.nil_append, distinct_eq_self unique]
          rfl
      | cons entry rest =>
          have shorter :
              (rest.filter fun later =>
                (later.key == entry.key) = false).length < length := by
            rw [← size, List.length_cons]
            exact Nat.lt_succ_of_le (List.length_filter_le _ _)
          have otherUnique :
              ((right.filter fun later =>
                (later.key == entry.key) = false).map
                  Entry.key).Nodup :=
            unique.sublist (List.filter_sublist.map Entry.key)
          rw [distinct, List.cons_append, List.eraseDupsBy_cons,
            List.filter_append, distinct, List.eraseDupsBy_cons,
            List.cons_append, ← lacking_filter]
          exact congrArg (entry :: ·)
            (inductionHypothesis _ shorter otherUnique rfl)

/-- Keeping the first entry of every key keeps all answers. -/
theorem find?_distinct
    (entries : List Entry)
    (key : Key) :
    find? ⟨distinct entries⟩ key = find? ⟨entries⟩ key := by
  induction entries using List.reverseRecOn with
  | nil =>
      rfl
  | append_singleton entries entry inductionHypothesis =>
      rw [distinct_append (by simp), find?_append, inductionHypothesis,
        find?_append]
      cases found : find? ⟨entries⟩ entry.key with
      | none =>
          simp [lacking, found]
      | some existing =>
          by_cases same : entry.key = key
          · simp [← same, found]
          · simp [lacking, find?, same]

/-- Of every key, only one entry is kept. -/
theorem nodup_keys_distinct
    (entries : List Entry) :
    ((distinct entries).map Entry.key).Nodup := by
  induction entries using List.reverseRecOn with
  | nil =>
      exact .nil
  | append_singleton entries entry inductionHypothesis =>
      rw [distinct_append (by simp)]
      cases found : find? ⟨entries⟩ entry.key with
      | some existing =>
          simpa [lacking, found] using inductionHypothesis
      | none =>
          have kept : lacking ⟨entries⟩ [entry] = [entry] := by
            simp [lacking, found]
          rw [← find?_distinct] at found
          rw [kept, List.map_append, List.map_singleton,
            ← List.concat_eq_append]
          exact (List.nodup_concat _ _).mpr
            ⟨find?_eq_none_iff.mp found, inductionHypothesis⟩

/-- What two lists of entries lack together is what the first lacks of what the
second lacks. -/
theorem lacking_append
    (left right entries : List Entry) :
    lacking ⟨left ++ right⟩ entries =
      lacking ⟨left⟩ (lacking ⟨right⟩ entries) := by
  simp only [lacking, List.filter_filter, find?_append,
    Option.isNone_or]

/-- Behind other entries, the first entry of every key is kept if the others
lack the key. -/
theorem distinct_append_eq
    (left right : List Entry) :
    distinct (left ++ right) =
      distinct left ++ lacking ⟨left⟩ (distinct right) := by
  induction right using List.reverseRecOn with
  | nil =>
      simp [distinct, lacking]
  | append_singleton right entry inductionHypothesis =>
      rw [← List.append_assoc, distinct_append (by simp),
        inductionHypothesis, distinct_append (by simp), lacking_append,
        List.append_assoc, lacking, lacking, lacking, lacking,
        List.filter_append]

/-- Dropping repeated keys among the later entries first changes nothing. -/
theorem distinct_append_distinct
    (left right : List Entry) :
    distinct (left ++ distinct right) = distinct (left ++ right) := by
  rw [distinct_append (nodup_keys_distinct right), distinct_append_eq]

/-- Dropping repeated keys among the earlier entries first changes nothing. -/
theorem distinct_distinct_append
    (left right : List Entry) :
    distinct (distinct left ++ right) = distinct (left ++ right) := by
  rw [distinct_append_eq, distinct_append_eq,
    distinct_eq_self (nodup_keys_distinct left)]
  exact congrArg (_ ++ ·)
    (lacking_congr fun entry _ => find?_distinct left entry.key)

end Distinct

section Union

variable {left middle right : Registry}

/-- Merging keeps, of the entries of both registries behind each other, the
first one of every key. -/
theorem merge_eq
    (unique : left.keys.Nodup)
    (otherUnique : right.keys.Nodup) :
    left.merge right =
      (⟨distinct (left.entries ++ right.entries)⟩,
        left.colliding right.entries) := by
  rw [merge, mergeEntries_eq otherUnique, distinct_append otherUnique,
    distinct_eq_self unique]

theorem nodup_keys_merge
    (unique : left.keys.Nodup)
    (otherUnique : right.keys.Nodup) :
    (left.merge right).1.keys.Nodup := by
  rw [merge_eq unique otherUnique]
  exact nodup_keys_distinct _

/-- Every entry of the merged registry is either taken over or reported. -/
theorem size_merge_add_length
    (otherUnique : right.keys.Nodup) :
    (left.merge right).1.size + (left.merge right).2.length =
      left.size + right.size := by
  have divided :=
    length_lacking_add_length_colliding left right.entries
  rw [merge, mergeEntries_eq otherUnique]
  simp only [size, List.length_append]
  omega

/-- Merging is associative, the order of the entries included. -/
theorem merge_assoc
    (unique : left.keys.Nodup)
    (middleUnique : middle.keys.Nodup)
    (rightUnique : right.keys.Nodup) :
    ((left.merge middle).1.merge right).1 =
      (left.merge (middle.merge right).1).1 := by
  rw [merge_eq (nodup_keys_merge unique middleUnique) rightUnique,
    merge_eq unique (nodup_keys_merge middleUnique rightUnique),
    merge_eq unique middleUnique, merge_eq middleUnique rightUnique]
  simp only [distinct_distinct_append, distinct_append_distinct,
    List.append_assoc]

/-- However three registries are merged in their order, as many entries are
turned down. -/
theorem length_merge_assoc
    (unique : left.keys.Nodup)
    (middleUnique : middle.keys.Nodup)
    (rightUnique : right.keys.Nodup) :
    (left.merge middle).2.length +
        ((left.merge middle).1.merge right).2.length =
      (middle.merge right).2.length +
        (left.merge (middle.merge right).1).2.length := by
  have leftFirst := @size_merge_add_length left middle middleUnique
  have leftThen :=
    @size_merge_add_length (left.merge middle).1 right rightUnique
  have rightFirst := @size_merge_add_length middle right rightUnique
  have rightThen :=
    @size_merge_add_length left (middle.merge right).1
      (nodup_keys_merge middleUnique rightUnique)
  rw [merge_assoc unique middleUnique rightUnique] at leftThen
  omega

theorem merge_empty
    (registry : Registry) :
    registry.merge {} = (registry, []) :=
  rfl

theorem empty_merge
    (unique : right.keys.Nodup) :
    merge {} right = (right, []) := by
  rw [@merge_eq {} right .nil unique, List.nil_append,
    distinct_eq_self unique]
  simp [colliding, find?]

end Union

end ApiIndex.Reference.Registry

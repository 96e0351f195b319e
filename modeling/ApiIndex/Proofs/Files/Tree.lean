import ApiIndex.Files.Tree
import ApiIndex.Proofs.Files.Path
import Mathlib.Data.List.Nodup
import Mathlib.Data.List.Perm.Subperm

namespace ApiIndex.Files

/-!
# Directories of a tree

In the tree of a file system the names in each directory are different, so names
lead to one entry only.  The directories of a tree can be listed, which bounds
the number of different places that are directories.
-/

namespace Entry

mutual

/-- The names that lead to each directory of a tree, outermost first. -/
def directoryPaths : Entry → List (List String)
  | .directory entries =>
      [] :: directoryPathsBelow entries
  | _ =>
      []

/-- The names that lead to each directory below the entries of a directory. -/
def directoryPathsBelow : List (String × Entry) → List (List String)
  | [] =>
      []
  | entry :: rest =>
      directoryPathsNamed entry ++ directoryPathsBelow rest

/-- The names that lead to each directory of a named tree. -/
def directoryPathsNamed : String × Entry → List (List String)
  | (name, entry) =>
      (directoryPaths entry).map (name :: ·)

end

mutual

/-- Every directory is counted. -/
theorem length_directoryPaths :
    (entry : Entry) →
      entry.directoryPaths.length = entry.directoryCount
  | .directory entries => by
      rw [directoryPaths, directoryCount, List.length_cons,
        length_directoryPathsBelow entries, Nat.add_comm]
  | .file _ => rfl
  | .link _ => rfl

/-- Every directory below entries is counted. -/
theorem length_directoryPathsBelow :
    (entries : List (String × Entry)) →
      (directoryPathsBelow entries).length = directoryCounts entries
  | [] => rfl
  | entry :: rest => by
      rw [directoryPathsBelow, directoryCounts, List.length_append,
        length_directoryPathsNamed entry, length_directoryPathsBelow rest]

/-- Every directory of a named tree is counted. -/
theorem length_directoryPathsNamed :
    (entry : String × Entry) →
      (directoryPathsNamed entry).length = directoryCountNamed entry
  | (name, entry) => by
      rw [directoryPathsNamed, directoryCountNamed, List.length_map,
        length_directoryPaths entry]

end

variable {entry inner : Entry} {entries : List (String × Entry)}

/-- The directories below an entry are below all entries. -/
theorem mem_directoryPathsBelow
    {name : String}
    {names : List String}
    (listed : (name, inner) ∈ entries)
    (member : names ∈ inner.directoryPaths) :
    name :: names ∈ directoryPathsBelow entries := by
  induction entries with
  | nil =>
      simp at listed
  | cons first entries inductionHypothesis =>
      rw [directoryPathsBelow, List.mem_append]
      rcases List.mem_cons.mp listed with rfl | later
      · exact .inl (List.mem_map_of_mem member)
      · exact .inr (inductionHypothesis later)

/-- Only a directory has entries with names. -/
theorem exists_of_child?
    {name : String}
    (isChild : entry.child? name = some inner) :
    ∃ entries, entry = .directory entries ∧ (name, inner) ∈ entries := by
  cases entry with
  | file content =>
      cases isChild
  | link target =>
      cases isChild
  | directory entries =>
      obtain ⟨found, isFound, rfl⟩ := Option.map_eq_some_iff.mp isChild
      have sameName : found.1 = name := by
        simpa using List.find?_some isFound
      refine ⟨entries, rfl, ?_⟩
      rw [← sameName]
      exact List.mem_of_find?_eq_some isFound

/-- Where names are different, each name has its own entry. -/
theorem child?_of_mem
    {name : String}
    (different : (entries.map Prod.fst).Nodup)
    (listed : (name, entry) ∈ entries) :
    (directory entries).child? name = some entry := by
  induction entries with
  | nil =>
      simp at listed
  | cons first entries inductionHypothesis =>
      rw [List.map_cons, List.nodup_cons] at different
      rcases List.mem_cons.mp listed with rfl | later
      · simp [child?]
      · have seen : name ∈ entries.map Prod.fst := List.mem_map_of_mem later
        have isOther : first.1 ≠ name := by
          rintro rfl
          exact different.1 seen
        have found := inductionHypothesis different.2 later
        simpa [child?, isOther] using found

/-- Names that lead to a directory are listed. -/
theorem mem_directoryPaths
    {names : List String}
    (leads : entry.descend? names = some (.directory entries)) :
    names ∈ entry.directoryPaths := by
  induction names generalizing entry with
  | nil =>
      cases leads
      exact List.mem_cons_self
  | cons name names inductionHypothesis =>
      obtain ⟨inner, isChild, leadsOn⟩ := Option.bind_eq_some_iff.mp leads
      obtain ⟨others, rfl, listed⟩ := exists_of_child? isChild
      exact List.mem_cons_of_mem []
        (mem_directoryPathsBelow listed (inductionHypothesis leadsOn))

/-- In every directory of a tree the names are different, and each can stand in a
path. -/
inductive WellNamed :
    Entry → Prop where
  | file
      (content : ByteArray) :
      WellNamed (.file content)
  | link
      (target : String) :
      WellNamed (.link target)
  | directory
      {entries : List (String × Entry)}
      (different : (entries.map Prod.fst).Nodup)
      (isName : ∀ name ∈ entries.map Prod.fst, IsName name)
      (each : ∀ entry ∈ entries, WellNamed entry.2) :
      WellNamed (.directory entries)

/-- What is inside a well named tree is well named. -/
theorem WellNamed.of_descend?
    {names : List String}
    (wellNamed : entry.WellNamed)
    (leads : entry.descend? names = some inner) :
    inner.WellNamed := by
  induction names generalizing entry with
  | nil =>
      cases leads
      exact wellNamed
  | cons name names inductionHypothesis =>
      obtain ⟨child, isChild, leadsOn⟩ := Option.bind_eq_some_iff.mp leads
      obtain ⟨entries, rfl, listed⟩ := exists_of_child? isChild
      cases wellNamed with
      | directory different isName each =>
          exact inductionHypothesis (each (name, child) listed) leadsOn

/-- Names may be followed in two parts. -/
theorem descend?_append
    (entry : Entry)
    (names more : List String) :
    entry.descend? (names ++ more) =
      (entry.descend? names).bind fun inner => inner.descend? more := by
  induction names generalizing entry with
  | nil =>
      rfl
  | cons name names inductionHypothesis =>
      simp only [List.cons_append, descend?, Option.bind_assoc,
        inductionHypothesis]

end Entry

namespace FileSystem

/-- In every directory the names are different, and each can stand in a path. -/
def WellFormed
    (system : FileSystem) :
    Prop :=
  system.root.WellNamed

variable
  {system : FileSystem}
  {place : Place}
  {entries : List (String × Entry)}

/-- A directory at a place has different names that can stand in a path. -/
theorem WellFormed.namesAt
    (wellFormed : system.WellFormed)
    (isDirectory : system.entry? place = some (.directory entries)) :
    (entries.map Prod.fst).Nodup ∧
    ∀ name ∈ entries.map Prod.fst, IsName name := by
  cases Entry.WellNamed.of_descend? wellFormed isDirectory with
  | directory different isName each =>
      exact ⟨different, isName⟩

/-- The entry at a place inside a directory. -/
theorem entry?_cons
    (isDirectory : system.entry? place = some (.directory entries))
    (name : String) :
    system.entry? (name :: place) =
      (Entry.directory entries).child? name := by
  rw [FileSystem.entry?, List.reverse_cons, Entry.descend?_append,
    ← FileSystem.entry?, isDirectory]
  simp [Entry.descend?]

/-- Different places of directories are not more than there are directories. -/
theorem length_le_directoryCount
    {places : List Place}
    (different : places.Nodup)
    (directories :
      ∀ place ∈ places, ∃ entries,
        system.entry? place = some (.directory entries)) :
    places.length ≤ system.root.directoryCount := by
  have listed :
      places.map List.reverse ⊆ system.root.directoryPaths := by
    intro names member
    obtain ⟨place, isPlace, rfl⟩ := List.mem_map.mp member
    obtain ⟨entries, isDirectory⟩ := directories place isPlace
    exact Entry.mem_directoryPaths isDirectory
  have bound :=
    (List.subperm_of_subset
      (List.Nodup.map List.reverse_injective different) listed).length_le
  rwa [List.length_map, Entry.length_directoryPaths] at bound

end FileSystem

end ApiIndex.Files

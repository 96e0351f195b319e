import ApiIndex.Files.Walk
import ApiIndex.Proofs.Files.Resolve
import ApiIndex.Proofs.Files.Tree

namespace ApiIndex.Files

/-!
# What a walk visits

Below a directory are the files that some names lead to, one after the other,
where a link counts as what it leads to.  A walk that succeeds visits exactly
these files.  It never gives up for lack of links: the directories that the
links inside each other lead to are all different, so there are no more of them
than directories.
-/

namespace FileSystem

/-- A name in the directory at a place stands for another place, links
followed. -/
structure Enters
    (system : FileSystem)
    (place : Place)
    (name : String)
    (next : Place) : Prop where
  listed :
    ∃ entries,
      system.entry? place = some (.directory entries) ∧
      name ∈ entries.map Prod.fst
  resolves : system.resolveFrom place name = .ok next

/-- Names lead from one place to another, one after the other. -/
inductive Reaches
    (system : FileSystem) :
    Place → List String → Place → Prop where
  | here
      {place : Place} :
      Reaches system place [] place
  | enter
      {place next last : Place}
      {name : String}
      {names : List String}
      (enters : Enters system place name next)
      (rest : Reaches system next names last) :
      Reaches system place (name :: names) last

/-- A regular file below the directory that a path leads to: the names that lead
to it, and its content. -/
def FileBelow
    (system : FileSystem)
    (directory : String)
    (names : List String)
    (content : ByteArray) :
    Prop :=
  ∃ place entries last,
    system.resolveFrom system.workingDirectory directory = .ok place ∧
    system.entry? place = some (.directory entries) ∧
    Reaches system place names last ∧
    system.entry? last = some (.file content)

section Reaching

variable
  {system : FileSystem}
  {place next last other : Place}
  {name : String}
  {names : List String}
  {entries : List (String × Entry)}

/-- A name is resolved in one step. -/
theorem resolveFrom_name
    (isName : IsName name)
    (place : Place) :
    system.resolveFrom place name =
      system.follow linkLimit place [name.toList] := by
  have nonempty : name.isEmpty = false := by
    simpa using isName.nonempty
  have atPlace : origin place name.toList = place := by
    unfold origin
    split
    · rename_i rest isText
      exact absurd (isText ▸ List.mem_cons_self) isName.noSlash
    · rfl
  rw [resolveFrom, nonempty, atPlace, isName.counts.1]
  rfl

/-- A name that is no link stands for its own entry. -/
theorem enters_of_mem
    {entry : Entry}
    (wellFormed : system.WellFormed)
    (isDirectory : system.entry? place = some (.directory entries))
    (listed : (name, entry) ∈ entries)
    (noLink : ∀ target, entry ≠ .link target) :
    Enters system place name (name :: place) ∧
    system.entry? (name :: place) = some entry := by
  have member : name ∈ entries.map Prod.fst := List.mem_map_of_mem listed
  have isName := (wellFormed.namesAt isDirectory).2 name member
  have isChild :=
    Entry.child?_of_mem (wellFormed.namesAt isDirectory).1 listed
  obtain ⟨-, nonempty, notHere, notUp⟩ := isName.counts
  have moves :
      system.move place name.toList = .ok (.step (name :: place)) := by
    have counts : isStep name.toList = true := by
      simp [isStep, nonempty, notHere]
    simp only [move, isDirectory, counts, if_neg notUp, String.ofList_toList,
      isChild, ↓reduceIte]
  refine ⟨⟨⟨entries, isDirectory, member⟩, ?_⟩, ?_⟩
  · rw [resolveFrom_name isName]
    exact (Follows.step moves .done).follow_eq
  · rw [entry?_cons isDirectory, isChild]

/-- A name stands for one place only. -/
theorem Enters.unique
    (enters : Enters system place name next)
    (entersOther : Enters system place name other) :
    next = other :=
  Except.ok.inj (enters.resolves.symm.trans entersOther.resolves)

/-- Names lead to the place that is found by following them as a path. -/
theorem Reaches.eq_of_follows
    (wellFormed : system.WellFormed)
    (reaches : Reaches system place names last)
    (follows :
      Follows system linkLimit place (names.map String.toList) other) :
    other = last := by
  induction reaches with
  | here =>
      cases follows
      rfl
  | @enter place next last name names enters _ inductionHypothesis =>
      obtain ⟨entries, isDirectory, member⟩ := enters.listed
      have isName := (wellFormed.namesAt isDirectory).2 name member
      have resolves := enters.resolves
      rw [resolveFrom_name isName] at resolves
      obtain ⟨middle, first, rest⟩ :=
        @Follows.split system linkLimit place other [name.toList]
          (names.map String.toList) follows
      -- The walk resolves the name with all its links, the path with those
      -- that its front has left.
      rw [first.unique (follows_of_follow resolves)] at rest
      exact inductionHypothesis rest

/-- Names that lead on can stand in a path. -/
theorem Reaches.isName
    (wellFormed : system.WellFormed)
    (reaches : Reaches system place names last) :
    ∀ name ∈ names, IsName name := by
  induction reaches with
  | here =>
      simp
  | @enter place next last name names enters _ inductionHypothesis =>
      obtain ⟨entries, isDirectory, member⟩ := enters.listed
      rw [List.forall_mem_cons]
      exact
        ⟨(wellFormed.namesAt isDirectory).2 name member,
          inductionHypothesis⟩

/-- A file below a directory has names that can stand in a path. -/
theorem FileBelow.isName
    {directory : String}
    {content : ByteArray}
    (wellFormed : system.WellFormed)
    (below : FileBelow system directory names content) :
    names ≠ [] ∧ ∀ name ∈ names, IsName name := by
  obtain ⟨place, entries, last, -, isDirectory, reaches, isFile⟩ := below
  refine ⟨?_, reaches.isName wellFormed⟩
  rintro rfl
  cases reaches
  rw [isDirectory] at isFile
  cases isFile

/-- A file below a directory is where its components lead, if they lead
anywhere. -/
theorem FileBelow.entry?_of_leadsTo
    {directory : String}
    {content : ByteArray}
    (wellFormed : system.WellFormed)
    (below : FileBelow system directory names content)
    (leads :
      LeadsTo system (components directory ++ names.map .name) place) :
    system.entry? place = some (.file content) := by
  obtain ⟨start, entries, last, resolves, -, reaches, isFile⟩ := below
  have onwards := leads.follows_names (leadsTo_of_resolveFrom resolves)
  rwa [reaches.eq_of_follows wellFormed onwards]

end Reaching

end FileSystem

open FileSystem (Enters Reaches FileBelow)

section Budget

variable
  {system : FileSystem}
  {links : Nat}
  {inside : Ancestor}
  {outer : List Ancestor}
  {place : Place}
  {path : String}
  {entries : List (String × Entry)}

/-- The links that are left make up for the directories that links inside each
other have led to.  These directories, with the one that the walk starts at, are
all different, and the walk is inside of each. -/
def Budget
    (system : FileSystem)
    (links : Nat)
    (inside : Ancestor)
    (outer : List Ancestor) :
    Prop :=
  ∃ targets : List Place,
    targets.Nodup ∧
    (∀ target ∈ targets,
      target ∈ (inside :: outer).map Ancestor.place ∧
      ∃ entries, system.entry? target = some (.directory entries)) ∧
    links + targets.length = system.root.directoryCount + 1

/-- At its start a walk has a link for every directory. -/
theorem Budget.start
    (isDirectory : system.entry? place = some (.directory entries)) :
    Budget system system.root.directoryCount ⟨path, place⟩ [] := by
  refine ⟨[place], List.nodup_singleton place, ?_, rfl⟩
  intro target member
  rw [List.mem_singleton.mp member]
  exact ⟨List.mem_singleton_self place, entries, isDirectory⟩

/-- A directory that is no link costs nothing. -/
theorem Budget.deeper
    (budget : Budget system links inside outer)
    (next : Ancestor) :
    Budget system links next (inside :: outer) := by
  obtain ⟨targets, different, each, total⟩ := budget
  refine ⟨targets, different, ?_, total⟩
  intro target member
  exact
    ⟨List.mem_cons_of_mem next.place (each target member).1,
      (each target member).2⟩

/-- There is always a link left. -/
theorem Budget.pos
    (budget : Budget system links inside outer) :
    0 < links := by
  obtain ⟨targets, different, each, total⟩ := budget
  have bound :=
    FileSystem.length_le_directoryCount different fun target member =>
      (each target member).2
  omega

/-- A link to a directory that the walk is not inside of costs one. -/
theorem Budget.follow
    (budget : Budget system (links + 1) inside outer)
    (isDirectory : system.entry? place = some (.directory entries))
    (outside : place ∉ (inside :: outer).map Ancestor.place) :
    Budget system links ⟨path, place⟩ (inside :: outer) := by
  obtain ⟨targets, different, each, total⟩ := budget
  refine ⟨place :: targets, ?_, ?_, ?_⟩
  · rw [List.nodup_cons]
    exact ⟨fun member => outside (each place member).1, different⟩
  · intro target member
    rcases List.mem_cons.mp member with rfl | later
    · exact ⟨List.mem_cons_self, entries, isDirectory⟩
    · exact
        ⟨List.mem_cons_of_mem place (each target later).1,
          (each target later).2⟩
  · rw [List.length_cons]
    omega

/-- A place that no ancestor has is not one of theirs. -/
theorem not_mem_places_of_find?
    {ancestors : List Ancestor}
    (noAncestor : ancestors.find? (·.place == place) = none) :
    place ∉ ancestors.map Ancestor.place := by
  intro member
  obtain ⟨ancestor, isAncestor, rfl⟩ := List.mem_map.mp member
  exact List.find?_eq_none.mp noAncestor ancestor isAncestor (beq_self_eq_true _)

end Budget

section Visits

variable
  {system : FileSystem}
  {links : Nat}
  {inside : Ancestor}
  {outer : List Ancestor}
  {names keys : List String}
  {name : String}
  {next : Place}
  {visit : Visit}
  {visits : List Visit}
  {entries : List (String × Entry)}

/-- A visit of a file below one of some names in a directory. -/
def Visits
    (system : FileSystem)
    (inside : Ancestor)
    (names keys : List String)
    (visit : Visit) :
    Prop :=
  ∃ name ∈ keys, ∃ rest last content,
    Reaches system inside.place (name :: rest) last ∧
    system.entry? last = some (.file content) ∧
    visit =
      ⟨(name :: rest).foldl join inside.path, names ++ name :: rest⟩

/-- A name that stands for a file is visited once. -/
theorem visits_file
    {content : ByteArray}
    (enters : Enters system inside.place name next)
    (isFile : system.entry? next = some (.file content)) :
    Visits system inside names [name] visit ↔
      visit = ⟨join inside.path name, names ++ [name]⟩ := by
  constructor
  · rintro ⟨other, isName, rest, last, inner, reaches, isInner, rfl⟩
    rw [List.mem_singleton] at isName
    subst isName
    cases reaches with
    | enter entersOther below =>
        rw [← enters.unique entersOther] at below
        cases below with
        | here =>
            rfl
        | enter entersFile below =>
            obtain ⟨entries, isDirectory, -⟩ := entersFile.listed
            rw [isFile] at isDirectory
            cases isDirectory
  · rintro rfl
    exact
      ⟨name, List.mem_singleton_self name, [], next, content,
        .enter enters .here, isFile, rfl⟩

/-- Below a name that stands for a directory is what is below its entries. -/
theorem visits_directory
    (enters : Enters system inside.place name next)
    (isDirectory : system.entry? next = some (.directory entries)) :
    Visits system inside names [name] visit ↔
      Visits system ⟨join inside.path name, next⟩ (names ++ [name])
        (entries.map Prod.fst) visit := by
  constructor
  · rintro ⟨other, isName, rest, last, content, reaches, isFile, rfl⟩
    rw [List.mem_singleton] at isName
    subst isName
    cases reaches with
    | enter entersOther below =>
        rw [← enters.unique entersOther] at below
        cases below with
        | here =>
            rw [isDirectory] at isFile
            cases isFile
        | @enter _ after _ inner rest entersInner below =>
            obtain ⟨others, isOthers, listed⟩ := entersInner.listed
            rw [isDirectory] at isOthers
            cases isOthers
            exact
              ⟨inner, listed, rest, last, content, .enter entersInner below,
                isFile, by simp⟩
  · rintro ⟨inner, listed, rest, last, content, reaches, isFile, rfl⟩
    exact
      ⟨name, List.mem_singleton_self name, inner :: rest, last, content,
        .enter enters reaches, isFile, by simp⟩

/-- What is below some names is below the first or below the others. -/
theorem visits_cons :
    Visits system inside names (name :: keys) visit ↔
      Visits system inside names [name] visit ∨
        Visits system inside names keys visit := by
  simp only [Visits, List.mem_cons, List.not_mem_nil, or_false,
    or_and_right, exists_or]

mutual

/-- Entries are walked to the files below them. -/
theorem mem_walkEntries
    (wellFormed : system.WellFormed)
    (links : Nat)
    (inside : Ancestor)
    (outer : List Ancestor)
    (names : List String)
    (budget : Budget system links inside outer) :
    (entries : List (String × Entry)) →
    (visits : List Visit) →
    (∃ all, system.entry? inside.place = some (.directory all) ∧
      entries ⊆ all) →
    walkEntries system links inside outer names entries = .ok visits →
    ∀ visit, visit ∈ visits ↔
      Visits system inside names (entries.map Prod.fst) visit
  | [], visits, _, walked => by
      rw [walkEntries] at walked
      cases walked
      intro visit
      simp [Visits]
  | entry :: rest, visits, ⟨all, isDirectory, listed⟩, walked => by
      rw [walkEntries] at walked
      rw [List.cons_subset] at listed
      split at walked
      · cases walked
      · rename_i first isFirst
        split at walked
        · cases walked
        · rename_i more isMore
          cases walked
          intro visit
          rw [List.mem_append, List.map_cons, visits_cons,
            mem_walkEntry wellFormed links inside outer names budget
              entry first ⟨all, isDirectory, listed.1⟩ isFirst visit,
            mem_walkEntries wellFormed links inside outer names budget
              rest more ⟨all, isDirectory, listed.2⟩ isMore visit]
  termination_by entries => (links, sizeOf entries)

/-- An entry is walked to the files below it. -/
theorem mem_walkEntry
    (wellFormed : system.WellFormed)
    (links : Nat)
    (inside : Ancestor)
    (outer : List Ancestor)
    (names : List String)
    (budget : Budget system links inside outer) :
    (entry : String × Entry) →
    (visits : List Visit) →
    (∃ all, system.entry? inside.place = some (.directory all) ∧
      entry ∈ all) →
    walkEntry system links inside outer names entry = .ok visits →
    ∀ visit, visit ∈ visits ↔
      Visits system inside names [entry.1] visit
  | (name, .file content), visits, ⟨all, isDirectory, listed⟩, walked => by
      rw [walkEntry] at walked
      cases walked
      intro visit
      obtain ⟨enters, isFile⟩ :=
        FileSystem.enters_of_mem wellFormed isDirectory listed
          fun _ isLink => by cases isLink
      rw [List.mem_singleton, visits_file enters isFile]
  | (name, .directory entries), visits, ⟨all, isDirectory, listed⟩,
      walked => by
      rw [walkEntry] at walked
      intro visit
      obtain ⟨enters, isInner⟩ :=
        FileSystem.enters_of_mem wellFormed isDirectory listed
          fun _ isLink => by cases isLink
      rw [visits_directory enters isInner]
      exact
        mem_walkEntries wellFormed links
          ⟨join inside.path name, name :: inside.place⟩ (inside :: outer)
          (names ++ [name]) (budget.deeper _) entries visits
          ⟨entries, isInner, List.Subset.refl entries⟩ walked visit
  | (name, .link target), visits, ⟨all, isDirectory, listed⟩, walked => by
      rw [walkEntry] at walked
      intro visit
      split at walked
      · cases walked
      · rename_i next resolves
        have enters : Enters system inside.place name next :=
          ⟨⟨all, isDirectory, List.mem_map_of_mem listed⟩, resolves⟩
        split at walked
        · rename_i content isFile
          cases walked
          rw [List.mem_singleton, visits_file enters isFile]
        · rename_i entries isInner
          split at walked
          · cases walked
          · rename_i noAncestor
            have outside := not_mem_places_of_find? noAncestor
            cases links with
            | zero =>
                -- The walk would skip the directory here, but this many
                -- links inside each other there cannot be.
                exact absurd budget.pos (Nat.lt_irrefl 0)
            | succ left =>
                rw [visits_directory enters isInner]
                exact
                  mem_walkEntries wellFormed left
                    ⟨join inside.path name, next⟩ (inside :: outer)
                    (names ++ [name]) (budget.follow isInner outside)
                    entries visits
                    ⟨entries, isInner, List.Subset.refl entries⟩ walked
                    visit
        · cases walked
  termination_by entry => (links, sizeOf entry)

end

end Visits

section Walk

variable
  {system : FileSystem}
  {path : String}
  {names : List String}
  {content : ByteArray}
  {visits : List Visit}

/-- A walk that succeeds visits the files below the directory, and no others. -/
theorem mem_walk
    (wellFormed : system.WellFormed)
    (walked : walk system path = .ok visits)
    (visit : Visit) :
    visit ∈ visits ↔
      visit.path = visit.names.foldl join path ∧
      ∃ content, FileBelow system path visit.names content := by
  rw [walk] at walked
  split at walked
  · cases walked
  · rename_i place resolves
    split at walked
    · rename_i entries isDirectory
      rw [mem_walkEntries wellFormed system.root.directoryCount ⟨path, place⟩
        [] [] (.start isDirectory) entries visits
        ⟨entries, isDirectory, List.Subset.refl entries⟩ walked visit]
      constructor
      · rintro ⟨name, -, rest, last, content, reaches, isFile, rfl⟩
        exact
          ⟨rfl, content, place, entries, last, resolves, isDirectory,
            reaches, isFile⟩
      · rintro ⟨isPath, content, other, others, last, resolvesOther,
          isOther, reaches, isFile⟩
        rw [resolves] at resolvesOther
        cases resolvesOther
        obtain ⟨visitPath, names⟩ := visit
        cases reaches with
        | here =>
            rw [isDirectory] at isFile
            cases isFile
        | @enter _ _ _ name rest enters below =>
            obtain ⟨inner, isInner, listed⟩ := enters.listed
            rw [isDirectory] at isInner
            cases isInner
            refine
              ⟨name, listed, rest, last, content, .enter enters below,
                isFile, ?_⟩
            rw [← isPath]
            rfl
    · cases walked

/-- The components of a file below a directory. -/
theorem components_foldl_join
    (path : String)
    (isName : ∀ name ∈ names, IsName name) :
    components (names.foldl join path) =
      components path ++ names.map .name := by
  induction names generalizing path with
  | nil =>
      simp
  | cons name names inductionHypothesis =>
      rw [List.foldl_cons,
        inductionHypothesis (join path name) fun other member =>
          isName other (List.mem_cons_of_mem name member),
        components_join path (isName name List.mem_cons_self)]
      simp

end Walk

end ApiIndex.Files

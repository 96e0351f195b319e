import ApiIndex.Collect
import ApiIndex.Proofs.Files.Walk
import Mathlib.Data.List.Sort

namespace ApiIndex.Collect

open ApiIndex.Batch (Source)
open ApiIndex.Files
open ApiIndex.Files.FileSystem (FileBelow LeadsTo)

/-!
# Finding, arranging and reading

What is found at a path is the path itself or the files below it.  Arranging
what is found sorts it by path and keeps one document of each path; reading it
keeps the order.
-/

/-- The path of a document without regard to its spelling. -/
def Found.steps
    (found : Found) :
    List Component :=
  components found.path

section Arrange

variable {previous : Found} {found rest : List Found}

/-- One document does not come behind another. -/
def NotBehind
    (left right : Found) :
    Prop :=
  (comparePaths left.steps right.steps).isLE = true

/-- Documents that are in path order without repetition. -/
def InOrder
    (found : List Found) :
    Prop :=
  found.Pairwise fun left right => Precedes left.steps right.steps

/-- The paths of documents. -/
def stepsOf
    (found : List Found) :
    List (List Component) :=
  found.map Found.steps

/-- What is dropped has the path of the document before it. -/
theorem dropRepeated_spec
    (sorted : (previous :: rest).Pairwise NotBehind) :
    InOrder (previous :: dropRepeated previous rest) ∧
    ∀ path,
      path ∈ stepsOf (previous :: dropRepeated previous rest) ↔
        path ∈ stepsOf (previous :: rest) := by
  induction rest generalizing previous with
  | nil =>
      exact ⟨List.pairwise_singleton _ previous, fun path => Iff.rfl⟩
  | cons next rest inductionHypothesis =>
      obtain ⟨notBehind, sortedRest⟩ := List.pairwise_cons.mp sorted
      rw [dropRepeated]
      by_cases same : previous.compare next = .eq
      · have samePath : previous.steps = next.steps :=
          Std.LawfulEqCmp.eq_of_compare same
        -- The next document is dropped, so the previous one has to be
        -- compared with the one behind it.
        have sortedOthers : (previous :: rest).Pairwise NotBehind :=
          sorted.sublist (.cons_cons previous (.cons next (.refl rest)))
        obtain ⟨inOrder, samePaths⟩ := inductionHypothesis sortedOthers
        rw [if_pos same]
        refine ⟨inOrder, ?_⟩
        intro path
        rw [samePaths path]
        simp [stepsOf, samePath]
      · have before : Precedes previous.steps next.steps := by
          have isLE := notBehind next List.mem_cons_self
          rw [NotBehind, Ordering.isLE_iff_eq_lt_or_eq_eq] at isLE
          exact isLE.resolve_right same
        obtain ⟨inOrder, samePaths⟩ := inductionHypothesis sortedRest
        rw [if_neg same]
        refine ⟨?_, ?_⟩
        · refine List.pairwise_cons.mpr ⟨?_, inOrder⟩
          intro later member
          rcases List.mem_cons.mp member with rfl | behind
          · exact before
          · exact
              Std.TransCmp.lt_trans before
                ((List.pairwise_cons.mp inOrder).1 later behind)
        · intro path
          have others := samePaths path
          simp only [stepsOf, List.map_cons, List.mem_cons] at others ⊢
          rw [others]

/-- Arranged documents are in path order, and no path is lost or added. -/
theorem arrange_spec
    (found : List Found) :
    InOrder (arrange found) ∧
    ∀ path, path ∈ stepsOf (arrange found) ↔ path ∈ stepsOf found := by
  have decides
      (left right : Found) :
      (left.compare right != .gt) = true ↔ NotBehind left right := by
    rw [NotBehind, Found.compare, ← Found.steps, ← Found.steps]
    cases comparePaths left.steps right.steps <;> decide
  have sorted :=
    List.pairwise_mergeSort
      (fun left middle right before after =>
        (decides left right).mpr
          (Std.TransCmp.isLE_trans ((decides left middle).mp before)
            ((decides middle right).mp after)))
      (fun left right => by
        rw [Bool.or_eq_true, decides, decides, NotBehind, NotBehind,
          @Std.OrientedCmp.eq_swap _ comparePaths _ right.steps left.steps]
        cases comparePaths left.steps right.steps <;> decide)
      found
  have samePaths :=
    (List.mergeSort_perm found fun left right =>
      left.compare right != .gt).map Found.steps
  rw [arrange]
  split
  · rename_i isEmpty
    rw [isEmpty] at samePaths
    exact ⟨List.Pairwise.nil, fun path => samePaths.mem_iff⟩
  · rename_i first rest isSorted
    rw [isSorted] at sorted samePaths
    obtain ⟨inOrder, kept⟩ :=
      dropRepeated_spec
        (sorted.imp fun {left right} notBehind =>
          (decides left right).mp notBehind)
    exact ⟨inOrder, fun path => (kept path).trans samePaths.mem_iff⟩

/-- What is dropped is nothing new. -/
theorem dropRepeated_subset
    (previous : Found)
    (rest : List Found) :
    dropRepeated previous rest ⊆ rest := by
  induction rest generalizing previous with
  | nil =>
      exact List.Subset.refl []
  | cons next rest inductionHypothesis =>
      rw [dropRepeated]
      split
      · exact List.subset_cons_of_subset next (inductionHypothesis previous)
      · exact List.cons_subset_cons next (inductionHypothesis next)

/-- Every arranged document was found. -/
theorem arrange_subset
    (found : List Found) :
    arrange found ⊆ found := by
  have fromSorted :
      arrange found ⊆
        found.mergeSort fun left right => left.compare right != .gt := by
    rw [arrange]
    split
    · exact List.nil_subset _
    · rename_i first rest isSorted
      rw [isSorted]
      exact List.cons_subset_cons first (dropRepeated_subset first rest)
  intro document member
  exact (List.mergeSort_perm found _).mem_iff.mp (fromSorted member)

end Arrange

section Finding

variable
  {system : FileSystem}
  {suffix path : String}
  {paths others : List String}
  {names : List String}
  {content : ByteArray}
  {found : List Found}

/-- A regular file below a directory whose name ends in a suffix. -/
def SourceBelow
    (system : FileSystem)
    (suffix directory : String)
    (names : List String)
    (content : ByteArray) :
    Prop :=
  FileBelow system directory names content ∧
  ∃ name, names.getLast? = some name ∧ suffix.toList <:+ name.toList

/-- A document that a path stands for: the path itself, or a file below it. -/
inductive Finds
    (system : FileSystem)
    (suffix path : String) :
    Found → Prop where
  | itself
      (noDirectory : system.isDirectory path = false) :
      Finds system suffix path
        ⟨path, documentName suffix ((components path).map (·.text))⟩
  | below
      {names : List String}
      {content : ByteArray}
      (source : SourceBelow system suffix path names content) :
      Finds system suffix path
        ⟨names.foldl join path, documentName suffix names⟩

/-- A directory has files below it. -/
theorem SourceBelow.isDirectory
    (source : SourceBelow system suffix path names content) :
    system.isDirectory path = true := by
  obtain ⟨⟨place, entries, last, resolves, isDirectory, -, -⟩, -⟩ := source
  simp [FileSystem.isDirectory, FileSystem.lookup, resolves, isDirectory]

/-- The suffix is looked for in the last name. -/
theorem hasSuffix_iff
    (visit : Visit) :
    hasSuffix suffix visit = true ↔
      ∃ name, visit.names.getLast? = some name ∧
        suffix.toList <:+ name.toList := by
  rw [hasSuffix]
  cases visit.names.getLast? with
  | none =>
      simp
  | some name =>
      simp

/-- What is found at a path is what it stands for. -/
theorem mem_findAt
    (wellFormed : system.WellFormed)
    (isFound : findAt system suffix path = .ok found)
    (document : Found) :
    document ∈ found ↔ Finds system suffix path document := by
  rw [findAt] at isFound
  split at isFound
  · rename_i isDirectory
    split at isFound
    · cases isFound
    · rename_i visits walked
      cases isFound
      rw [List.mem_map]
      constructor
      · rintro ⟨visit, kept, rfl⟩
        obtain ⟨member, ends⟩ := List.mem_filter.mp kept
        obtain ⟨isPath, content, below⟩ :=
          (mem_walk wellFormed walked visit).mp member
        rw [isPath]
        exact .below ⟨below, (hasSuffix_iff visit).mp ends⟩
      · intro finds
        cases finds with
        | itself noDirectory =>
            rw [isDirectory] at noDirectory
            contradiction
        | @below names content source =>
            let visit : Visit := ⟨names.foldl join path, names⟩
            have member : visit ∈ visits :=
              (mem_walk wellFormed walked visit).mpr
                ⟨rfl, content, source.1⟩
            have ends := (hasSuffix_iff visit).mpr source.2
            exact ⟨visit, List.mem_filter.mpr ⟨member, ends⟩, rfl⟩
  · rename_i noDirectory
    cases isFound
    rw [List.mem_singleton]
    constructor
    · rintro rfl
      exact .itself (Bool.eq_false_of_not_eq_true noDirectory)
    · intro finds
      cases finds with
      | itself _ =>
          rfl
      | below source =>
          exact absurd source.isDirectory noDirectory

/-- What is found at paths is what they stand for. -/
theorem mem_findAll
    (wellFormed : system.WellFormed)
    (isFound : findAll system suffix paths = .ok found)
    (document : Found) :
    document ∈ found ↔
      ∃ path ∈ paths, Finds system suffix path document := by
  induction paths generalizing found with
  | nil =>
      cases isFound
      simp
  | cons path rest inductionHypothesis =>
      rw [findAll] at isFound
      split at isFound
      · cases isFound
      · rename_i first isFirst
        split at isFound
        · cases isFound
        · rename_i more isMore
          cases isFound
          rw [List.mem_append, mem_findAt wellFormed isFirst,
            inductionHypothesis isMore, List.exists_mem_cons_iff]

end Finding

section Reading

variable
  {system : FileSystem}
  {suffix path text : String}
  {paths : List String}
  {found : List Found}
  {documents : List Source}

/-- A path that is looked up leads to the entry. -/
theorem exists_leadsTo_of_lookup
    {entry : Entry}
    (isFound : system.lookup path = .ok entry) :
    ∃ place,
      LeadsTo system (components path) place ∧
      system.entry? place = some entry := by
  rw [FileSystem.lookup] at isFound
  split at isFound
  · cases isFound
  · rename_i place resolves
    split at isFound
    · cases isFound
    · rename_i isEntry
      cases isFound
      exact ⟨place, FileSystem.leadsTo_of_resolveFrom resolves, isEntry⟩

/-- A text is read from the file that the path leads to. -/
theorem exists_lookup_of_readText
    (isText : system.readText path = .ok text) :
    ∃ content,
      system.lookup path = .ok (.file content) ∧
      String.fromUTF8? content = some text := by
  rw [FileSystem.readText] at isText
  split at isText
  · cases isText
  · rename_i content isFile
    split at isText
    · rename_i isUnicode
      cases isText
      exact ⟨content, isFile, isUnicode⟩
    · cases isText
  · cases isText
  · cases isText

/-- Each document has the name and the text of what it was found as. -/
theorem forall₂_of_readAll
    (isRead : readAll system found = .ok documents) :
    List.Forall₂
      (fun found document =>
        document.name = found.name ∧
        system.readText found.path = .ok document.text)
      found documents := by
  induction found generalizing documents with
  | nil =>
      cases isRead
      exact .nil
  | cons first rest inductionHypothesis =>
      rw [readAll] at isRead
      split at isRead
      · cases isRead
      · rename_i text isText
        split at isRead
        · cases isRead
        · rename_i sources isSources
          cases isRead
          exact .cons ⟨rfl, isText⟩ (inductionHypothesis isSources)

/-- A run that succeeds finds documents, arranges them and reads them. -/
theorem exists_of_collect
    (collected : collect system suffix paths = .ok documents) :
    ∃ found,
      findAll system suffix paths = .ok found ∧
      List.Forall₂
        (fun found document =>
          document.name = found.name ∧
          system.readText found.path = .ok document.text)
        (arrange found) documents := by
  rw [collect] at collected
  split at collected
  · cases collected
  · rename_i found isFound
    exact ⟨found, isFound, forall₂_of_readAll collected⟩

end Reading

end ApiIndex.Collect

import ApiIndex.Proofs.Collect.Finding

namespace ApiIndex.Collect

open ApiIndex.Batch (Source)
open ApiIndex.Files
open ApiIndex.Files.FileSystem (FileBelow LeadsTo)

/-!
# Collected documents

The documents that are collected stand for different paths in path order:
exactly for the given paths that lead to no directory and for the files below
the given directories whose names end in the suffix.  Whichever spelling of a
path is kept, it leads to the same file as every other, so the order in which
the paths are given does not matter.
-/

section Specification

/-- A path that is collected: a given path that leads to no directory, or a file
below a given directory whose name ends in the suffix. -/
def Listed
    (system : FileSystem)
    (suffix : String)
    (paths : List String)
    (path : List Component) :
    Prop :=
  (∃ given ∈ paths,
    system.isDirectory given = false ∧ path = components given) ∨
  ∃ directory ∈ paths, ∃ names content,
    SourceBelow system suffix directory names content ∧
    path = components directory ++ names.map .name

/-- The content of a file at a collected path, however it is come by. -/
def ContentAt
    (system : FileSystem)
    (suffix : String)
    (paths : List String)
    (path : List Component)
    (content : ByteArray) :
    Prop :=
  (∃ given ∈ paths,
    system.lookup given = .ok (.file content) ∧ path = components given) ∨
  ∃ directory ∈ paths, ∃ names,
    SourceBelow system suffix directory names content ∧
    path = components directory ++ names.map .name

/-- The text of the file at a collected path: there is such a file, and its
content is the text however it is come by. -/
@[mk_iff]
structure TextAt
    (system : FileSystem)
    (suffix : String)
    (paths : List String)
    (path : List Component)
    (text : String) : Prop where
  isFile : ∃ content, ContentAt system suffix paths path content
  isText :
    ∀ content, ContentAt system suffix paths path content →
      String.fromUTF8? content = some text

/-- Documents correspond one to one to the paths that are collected, in path
order, and each has the text of the file at its path. -/
structure Corresponds
    (system : FileSystem)
    (suffix : String)
    (paths : List String)
    (listed : List (List Component))
    (documents : List Source) : Prop where
  inOrder : listed.Pairwise Precedes
  complete : ∀ path, path ∈ listed ↔ Listed system suffix paths path
  texts :
    List.Forall₂ (TextAt system suffix paths) listed
      (documents.map (·.text))

end Specification

section Correspondence

variable
  {system : FileSystem}
  {suffix path : String}
  {paths others : List String}
  {found : List Found}
  {document : Found}
  {documents otherDocuments : List Source}

/-- The path of a file below a directory. -/
theorem SourceBelow.components_join
    {names : List String}
    {content : ByteArray}
    (wellFormed : system.WellFormed)
    (source : SourceBelow system suffix path names content) :
    components (names.foldl join path) =
      components path ++ names.map .name :=
  components_foldl_join path (source.1.isName wellFormed).2

/-- The paths of the documents that are found are those that are collected. -/
theorem mem_stepsOf_findAll
    (wellFormed : system.WellFormed)
    (isFound : findAll system suffix paths = .ok found)
    (path : List Component) :
    path ∈ stepsOf found ↔ Listed system suffix paths path := by
  rw [stepsOf, List.mem_map]
  constructor
  · rintro ⟨document, member, rfl⟩
    obtain ⟨given, isGiven, finds⟩ :=
      (mem_findAll wellFormed isFound document).mp member
    cases finds with
    | itself noDirectory =>
        exact .inl ⟨given, isGiven, noDirectory, rfl⟩
    | @below names content source =>
        exact
          .inr ⟨given, isGiven, names, content, source,
            source.components_join wellFormed⟩
  · rintro (⟨given, isGiven, noDirectory, rfl⟩ |
      ⟨directory, isGiven, names, content, source, rfl⟩)
    · exact
        ⟨_, (mem_findAll wellFormed isFound _).mpr
          ⟨given, isGiven, .itself noDirectory⟩, rfl⟩
    · exact
        ⟨_, (mem_findAll wellFormed isFound _).mpr
          ⟨directory, isGiven, .below source⟩,
          source.components_join wellFormed⟩

/-- The text of a document is the content of the file at its path, by whichever
of the given paths it is come by. -/
theorem text_of_found
    {text : String}
    (wellFormed : system.WellFormed)
    (isFound : findAll system suffix paths = .ok found)
    (member : document ∈ found)
    (isText : system.readText document.path = .ok text) :
    TextAt system suffix paths document.steps text := by
  obtain ⟨content, isFile, isUnicode⟩ := exists_lookup_of_readText isText
  obtain ⟨place, leads, isEntry⟩ := exists_leadsTo_of_lookup isFile
  constructor
  · obtain ⟨given, isGiven, finds⟩ :=
      (mem_findAll wellFormed isFound document).mp member
    cases finds with
    | itself _ =>
        exact ⟨content, .inl ⟨given, isGiven, isFile, rfl⟩⟩
    | @below names inner source =>
        exact
          ⟨inner, .inr ⟨given, isGiven, names, source,
            source.components_join wellFormed⟩⟩
  · rintro other (⟨given, -, isOther, samePath⟩ |
      ⟨directory, -, names, source, samePath⟩)
    · obtain ⟨otherPlace, otherLeads, isOtherEntry⟩ :=
        exists_leadsTo_of_lookup isOther
      rw [← samePath] at otherLeads
      rw [otherLeads.unique leads, isEntry] at isOtherEntry
      cases isOtherEntry
      exact isUnicode
    · -- The spelling that was read need not be the one that the walk has
      -- written; only the components are the same.
      rw [Found.steps] at samePath
      rw [samePath] at leads
      have isOtherEntry := source.1.entry?_of_leadsTo wellFormed leads
      rw [isEntry] at isOtherEntry
      cases isOtherEntry
      exact isUnicode

/-- The documents of a run that succeeds correspond to the paths that are
collected. -/
theorem corresponds_of_findAll
    (wellFormed : system.WellFormed)
    (isFound : findAll system suffix paths = .ok found)
    (isRead :
      List.Forall₂
        (fun found document =>
          document.name = found.name ∧
          system.readText found.path = .ok document.text)
        (arrange found) documents) :
    Corresponds system suffix paths (stepsOf (arrange found)) documents where
  inOrder := List.pairwise_map.mpr (arrange_spec found).1
  complete path :=
    ((arrange_spec found).2 path).trans
      (mem_stepsOf_findAll wellFormed isFound path)
  texts := by
    have each :=
      (List.forall₂_and_left (arrange found) documents).mpr
        ⟨fun _ member => arrange_subset found member, isRead⟩
    refine
      List.forall₂_map_left_iff.mpr
        (List.forall₂_map_right_iff.mpr (each.imp ?_))
    intro document source isDocument
    exact text_of_found wellFormed isFound isDocument.1 isDocument.2.2

/-- The paths that are collected have one order only. -/
theorem Corresponds.listed_unique
    {listed otherListed : List (List Component)}
    (reordered : others.Perm paths)
    (corresponds : Corresponds system suffix paths listed documents)
    (correspondsOther :
      Corresponds system suffix others otherListed otherDocuments) :
    otherListed = listed := by
  refine correspondsOther.inOrder.eq_of_mem_iff corresponds.inOrder ?_
  intro path
  rw [correspondsOther.complete, corresponds.complete]
  simp only [Listed, reordered.mem_iff]

/-- The paths that are collected have one sequence of texts only. -/
theorem Corresponds.texts_unique
    {listed : List (List Component)}
    (reordered : others.Perm paths)
    (corresponds : Corresponds system suffix paths listed documents)
    (correspondsOther :
      Corresponds system suffix others listed otherDocuments) :
    otherDocuments.map (·.text) = documents.map (·.text) := by
  have sameTexts :
      TextAt system suffix others = TextAt system suffix paths := by
    funext path text
    simp only [textAt_iff, ContentAt, reordered.mem_iff]
  have rightUnique : Relator.RightUnique (TextAt system suffix paths) := by
    intro path text other isText isOther
    obtain ⟨content, isContent⟩ := isText.isFile
    exact
      Option.some.inj
        ((isText.isText content isContent).symm.trans
          (isOther.isText content isContent))
  have otherTexts := correspondsOther.texts
  rw [sameTexts] at otherTexts
  exact List.right_unique_forall₂' rightUnique otherTexts corresponds.texts

end Correspondence

section Names

variable
  {system : FileSystem}
  {suffix directory : String}
  {names : List String}
  {content : ByteArray}

/-- What is left of a text without its suffix. -/
theorem stripSuffix_append
    {text : String}
    (ends : suffix.toList <:+ text.toList) :
    stripSuffix suffix text ++ suffix = text := by
  rw [stripSuffix, if_pos (List.isSuffixOf_iff_suffix.mpr ends),
    ← String.toList_inj, String.toList_append, String.toList_ofList]
  exact List.suffix_iff_eq_append.mp ends

/-- Parts that are put together end as their last part. -/
theorem suffix_intercalate
    {separator last : List α}
    {parts : List (List α)}
    (isLast : parts.getLast? = some last) :
    last <:+ separator.intercalate parts := by
  induction parts with
  | nil =>
      cases isLast
  | cons part parts inductionHypothesis =>
      cases parts with
      | nil =>
          cases isLast
          rw [List.intercalate_singleton]
          exact List.suffix_rfl
      | cons next rest =>
          rw [List.getLast?_cons_cons] at isLast
          rw [List.intercalate_cons_cons]
          exact (inductionHypothesis isLast).trans (List.suffix_append _ _)

/-- A document below a directory is named by the names that lead to it, without
the suffix. -/
theorem SourceBelow.documentName_append
    (source : SourceBelow system suffix directory names content) :
    documentName suffix names ++ suffix = "/".intercalate names := by
  obtain ⟨name, isLast, ends⟩ := source.2
  refine stripSuffix_append ?_
  rw [String.toList_intercalate]
  refine ends.trans (suffix_intercalate ?_)
  rw [List.getLast?_map, isLast]
  rfl

/-- Names between slashes can be told apart. -/
theorem names_eq_of_intercalate_eq
    {others : List String}
    (isName : names ≠ [] ∧ ∀ name ∈ names, IsName name)
    (isOtherName : others ≠ [] ∧ ∀ name ∈ others, IsName name)
    (same : "/".intercalate names = "/".intercalate others) :
    names = others := by
  have pieces_names
      {names : List String}
      (isName : names ≠ [] ∧ ∀ name ∈ names, IsName name) :
      pieces ("/".intercalate names).toList = names.map String.toList := by
    rw [String.toList_intercalate]
    refine pieces_intercalate (by simpa using isName.1) ?_
    intro text member
    obtain ⟨name, isOne, rfl⟩ := List.mem_map.mp member
    exact (isName.2 name isOne).noSlash
  have sameTexts := pieces_names isName
  rw [same, pieces_names isOtherName] at sameTexts
  exact (List.map_injective_iff.mpr (fun _ _ => String.toList_inj.mp) sameTexts).symm

/-- The name of the document at a path below a directory: with the suffix, it is
what leads from the directory to the file, joined with slashes. -/
def NamedBelow
    (system : FileSystem)
    (suffix directory : String)
    (path : List Component)
    (name : String) :
    Prop :=
  ∃ names content,
    SourceBelow system suffix directory names content ∧
    path = components directory ++ names.map .name ∧
    name ++ suffix = "/".intercalate names

/-- Below one directory, paths and names of documents determine each other. -/
theorem namedBelow_biUnique
    (wellFormed : system.WellFormed) :
    Relator.BiUnique (NamedBelow system suffix directory) := by
  constructor
  · rintro _ name _ ⟨names, content, source, rfl, isName⟩
      ⟨others, inner, otherSource, rfl, isOtherName⟩
    have sameNames :=
      names_eq_of_intercalate_eq (source.1.isName wellFormed)
        (otherSource.1.isName wellFormed)
        (isName.symm.trans isOtherName)
    rw [sameNames]
  · rintro _ name other ⟨names, content, source, rfl, isName⟩
      ⟨others, inner, otherSource, samePath, isOtherName⟩
    have sameNames : names = others :=
      List.map_injective_iff.mpr (fun _ _ => Component.name.inj)
        (List.append_cancel_left samePath)
    subst sameNames
    have sameText := isName.trans isOtherName.symm
    rw [← String.toList_inj, String.toList_append, String.toList_append]
      at sameText
    exact String.toList_inj.mp (List.append_cancel_right sameText)

/-- What is found at one directory is named below it. -/
theorem namedBelow_of_findAll
    {found : List Found}
    {document : Found}
    (wellFormed : system.WellFormed)
    (isDirectory : system.isDirectory directory = true)
    (isFound : findAll system suffix [directory] = .ok found)
    (member : document ∈ found) :
    NamedBelow system suffix directory document.steps document.name := by
  obtain ⟨given, isGiven, finds⟩ :=
    (mem_findAll wellFormed isFound document).mp member
  rw [List.mem_singleton.mp isGiven] at finds
  cases finds with
  | itself noDirectory =>
      rw [isDirectory] at noDirectory
      contradiction
  | @below names content source =>
      exact
        ⟨names, content, source, source.components_join wellFormed,
          source.documentName_append⟩

end Names

/-- Where collecting succeeds, the documents correspond one to one, in path
order, to the given paths that lead to no directory and the files below the
given directories whose names end in the suffix, and each has the text of its
file.  If it also succeeds for the same paths in another order, the paths and
the texts are the same.  The documents of one directory are named by the names
that lead from it to the file, and no two of them have the same name. -/
theorem collected_once_in_path_order
    {system : FileSystem}
    {suffix : String}
    {paths : List String}
    {documents : List Source}
    (wellFormed : system.WellFormed)
    (collected : collect system suffix paths = .ok documents) :
    ∃ listed,
      Corresponds system suffix paths listed documents ∧
      (∀ others otherDocuments,
        others.Perm paths →
        collect system suffix others = .ok otherDocuments →
        Corresponds system suffix others listed otherDocuments ∧
        otherDocuments.map (·.text) = documents.map (·.text)) ∧
      ∀ directory,
        paths = [directory] →
        system.isDirectory directory = true →
        List.Forall₂ (NamedBelow system suffix directory) listed
          (documents.map (·.name)) ∧
        (documents.map (·.name)).Nodup := by
  obtain ⟨found, isFound, isRead⟩ := exists_of_collect collected
  have corresponds := corresponds_of_findAll wellFormed isFound isRead
  refine ⟨stepsOf (arrange found), corresponds, ?_, ?_⟩
  · intro others otherDocuments reordered otherCollected
    obtain ⟨otherFound, isOtherFound, isOtherRead⟩ :=
      exists_of_collect otherCollected
    have otherCorresponds :=
      corresponds_of_findAll wellFormed isOtherFound isOtherRead
    rw [corresponds.listed_unique reordered otherCorresponds]
      at otherCorresponds
    exact
      ⟨otherCorresponds, corresponds.texts_unique reordered otherCorresponds⟩
  · rintro directory rfl isDirectory
    have each :=
      (List.forall₂_and_left (arrange found) documents).mpr
        ⟨fun _ member => arrange_subset found member, isRead⟩
    have named :
        List.Forall₂ (NamedBelow system suffix directory)
          (stepsOf (arrange found)) (documents.map (·.name)) := by
      refine
        List.forall₂_map_left_iff.mpr
          (List.forall₂_map_right_iff.mpr (each.imp ?_))
      intro document source isDocument
      rw [isDocument.2.1]
      exact
        namedBelow_of_findAll wellFormed isDirectory isFound isDocument.1
    have different : (stepsOf (arrange found)).Nodup := by
      refine corresponds.inOrder.imp ?_
      rintro left _ before rfl
      exact Std.Irrefl.irrefl left before
    exact
      ⟨named,
        (List.rel_nodup (namedBelow_biUnique wellFormed) named).mp different⟩

section Shelf

/-- A directory with a file and a link to the file. -/
def shelf : FileSystem where
  root :=
    .directory
      [("d",
        .directory [("a.rst", .file "A".toUTF8), ("b.rst", .link "a.rst")])]

/-- The shelf is a file system. -/
theorem wellFormed_shelf :
    shelf.WellFormed := by
  have isName
      (name : String)
      (member : name ∈ ["d", "a.rst", "b.rst"]) :
      IsName name := by
    simp only [List.mem_cons, List.not_mem_nil, or_false] at member
    rcases member with rfl | rfl | rfl <;> constructor <;> decide
  have inner :
      (Entry.directory
        [("a.rst", .file "A".toUTF8), ("b.rst", .link "a.rst")]).WellNamed :=
    .directory (by decide)
      (fun name member => isName name (List.mem_cons_of_mem "d" member))
      (by simp [Entry.WellNamed.file, Entry.WellNamed.link])
  exact
    Entry.WellNamed.directory (by decide)
      (fun name member =>
        isName name (List.mem_cons.mpr (.inl (List.mem_singleton.mp member))))
      (by simpa using inner)

/-- Three paths lead to the one file on the shelf. -/
theorem lookup_shelf
    {path : String}
    (isPath : path = "d/a.rst" ∨ path = "d//a.rst" ∨ path = "d/b.rst") :
    shelf.lookup path = .ok (.file "A".toUTF8) := by
  rcases isPath with rfl | rfl | rfl <;>
    simp [FileSystem.lookup, FileSystem.resolveFrom, FileSystem.origin,
      FileSystem.follow, FileSystem.linkLimit, FileSystem.entry?, pieces,
      Entry.descend?, Entry.child?, shelf]

/-- The text of the one file on the shelf. -/
theorem readText_shelf
    {path : String}
    (isPath : path = "d/a.rst" ∨ path = "d//a.rst" ∨ path = "d/b.rst") :
    shelf.readText path = .ok "A" := by
  have readsBack : String.fromUTF8? "A".toUTF8 = some "A" :=
    dif_pos "A".isValidUTF8
  simp only [FileSystem.readText, lookup_shelf isPath, readsBack]

/-- The walk of the shelf visits the file and the link. -/
theorem walk_shelf :
    shelf.isDirectory "d" = true ∧
    walk shelf "d" =
      .ok [⟨"d/a.rst", ["a.rst"]⟩, ⟨"d/b.rst", ["b.rst"]⟩] := by
  constructor <;>
    simp [FileSystem.isDirectory, FileSystem.lookup, walk, walkEntries,
      walkEntry, join, FileSystem.resolveFrom, FileSystem.origin,
      FileSystem.follow, FileSystem.linkLimit, FileSystem.entry?, pieces,
      Entry.descend?, Entry.child?, shelf]

/-- The file and the link to it, found by the directory, with the file in
another spelling behind or before: either way it is read once. -/
theorem shelf_collected :
    (∃ listed,
      Corresponds shelf ".rst" ["d", "d//a.rst"] listed
        [⟨"a", "A"⟩, ⟨"b", "A"⟩] ∧
      Corresponds shelf ".rst" ["d//a.rst", "d"] listed
        [⟨"d/a", "A"⟩, ⟨"b", "A"⟩]) ∧
    ∃ listed,
      List.Forall₂ (NamedBelow shelf ".rst" "d") listed ["a", "b"] := by
  have readsFile := @readText_shelf "d/a.rst" (.inl rfl)
  have readsSpelling := @readText_shelf "d//a.rst" (.inr (.inl rfl))
  have readsLink := @readText_shelf "d/b.rst" (.inr (.inr rfl))
  have foundBelow :
      findAt shelf ".rst" "d" =
        .ok [⟨"d/a.rst", "a"⟩, ⟨"d/b.rst", "b"⟩] := by
    rw [findAt, if_pos walk_shelf.1, walk_shelf.2]
    rfl
  have foundSpelling :
      findAt shelf ".rst" "d//a.rst" = .ok [⟨"d//a.rst", "d/a"⟩] := by
    have noDirectory : shelf.isDirectory "d//a.rst" = false := by
      rw [FileSystem.isDirectory, lookup_shelf (.inr (.inl rfl))]
    rw [findAt, noDirectory]
    rfl
  have fileFirst :
      Found.compare ⟨"d/a.rst", "a"⟩ ⟨"d/b.rst", "b"⟩ = .lt := by
    decide
  have spellingFirst :
      Found.compare ⟨"d//a.rst", "d/a"⟩ ⟨"d/b.rst", "b"⟩ = .lt := by
    decide
  have linkLast :
      Found.compare ⟨"d/b.rst", "b"⟩ ⟨"d//a.rst", "d/a"⟩ = .gt := by
    decide
  have sameFile :
      Found.compare ⟨"d/a.rst", "a"⟩ ⟨"d//a.rst", "d/a"⟩ = .eq := by
    decide
  have sameSpelling :
      Found.compare ⟨"d//a.rst", "d/a"⟩ ⟨"d/a.rst", "a"⟩ = .eq := by
    decide
  have below :
      collect shelf ".rst" ["d"] = .ok [⟨"a", "A"⟩, ⟨"b", "A"⟩] := by
    simp [collect, findAll, foundBelow, arrange, List.mergeSort,
      List.MergeSort.Internal.splitInTwo, fileFirst, dropRepeated, readAll,
      readsFile, readsLink]
  have behind :
      collect shelf ".rst" ["d", "d//a.rst"] =
        .ok [⟨"a", "A"⟩, ⟨"b", "A"⟩] := by
    simp [collect, findAll, foundBelow, foundSpelling, arrange,
      List.mergeSort, List.MergeSort.Internal.splitInTwo, fileFirst, linkLast,
      sameFile, dropRepeated, readAll, readsFile, readsLink]
  have before :
      collect shelf ".rst" ["d//a.rst", "d"] =
        .ok [⟨"d/a", "A"⟩, ⟨"b", "A"⟩] := by
    simp [collect, findAll, foundBelow, foundSpelling, arrange,
      List.mergeSort, List.MergeSort.Internal.splitInTwo, fileFirst,
      sameSpelling, spellingFirst, dropRepeated, readAll, readsSpelling,
      readsLink]
  constructor
  · obtain ⟨listed, corresponds, reordered, -⟩ :=
      collected_once_in_path_order wellFormed_shelf behind
    exact ⟨listed, corresponds, (reordered _ _ (.swap ..) before).1⟩
  · obtain ⟨listed, -, -, named⟩ :=
      collected_once_in_path_order wellFormed_shelf below
    exact ⟨listed, (named "d" rfl walk_shelf.1).1⟩

end Shelf

end ApiIndex.Collect

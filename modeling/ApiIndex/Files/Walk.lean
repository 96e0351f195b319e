import ApiIndex.Files.Tree

namespace ApiIndex.Files

/-!
# Walking a directory

A walk visits every file below a directory, links followed.  A link to a
directory that the walk is inside of would never end, so it stops the walk, as
does a link that leads nowhere.  Every link to a directory that is followed
leads to a directory that the walk is not inside of yet; hence no more such
links are followed inside each other than there are directories.
-/

/-- Why a walk stops. -/
inductive WalkFault where
  /-- A link to a directory that the walk is inside of. -/
  | loop (path ancestor : String)
  /-- A link that leads nowhere. -/
  | unreadable (path : String) (fault : Fault)
  deriving Repr, DecidableEq

/-- The wording of a fault. -/
def WalkFault.message : WalkFault → String
  | .loop path ancestor =>
      "File system loop found: " ++ path ++
        " points to an ancestor " ++ ancestor
  | .unreadable path fault =>
      "IO error for operation on " ++ path ++ ": " ++ fault.message

/-- A directory that a walk is inside of: its path and its place. -/
structure Ancestor where
  path : String
  place : Place
  deriving Repr, DecidableEq

/-- A file that a walk has found: its path, and the names that lead to it from
the start of the walk, outermost first. -/
structure Visit where
  path : String
  names : List String
  deriving Repr, DecidableEq

mutual

/-- Visit the entries of the innermost ancestor, of which `links` more may be
links to directories inside each other. -/
def walkEntries
    (system : FileSystem)
    (links : Nat)
    (inside : Ancestor)
    (outer : List Ancestor)
    (names : List String) :
    List (String × Entry) →
      Except WalkFault (List Visit)
  | [] =>
      .ok []
  | entry :: rest =>
      match walkEntry system links inside outer names entry with
      | .error fault =>
          .error fault
      | .ok visits =>
          match walkEntries system links inside outer names rest with
          | .error fault =>
              .error fault
          | .ok more =>
              .ok (visits ++ more)
  termination_by entries => (links, sizeOf entries)

/-- Visit one entry of the innermost ancestor. -/
def walkEntry
    (system : FileSystem)
    (links : Nat)
    (inside : Ancestor)
    (outer : List Ancestor)
    (names : List String) :
    String × Entry →
      Except WalkFault (List Visit)
  | (name, .file _) =>
      .ok [⟨join inside.path name, names ++ [name]⟩]
  | (name, .directory entries) =>
      walkEntries system links
        ⟨join inside.path name, name :: inside.place⟩ (inside :: outer)
        (names ++ [name]) entries
  | (name, .link _) =>
      let path := join inside.path name
      match system.resolveFrom inside.place name with
      | .error fault =>
          .error (.unreadable path fault)
      | .ok place =>
          match system.entry? place with
          | some (.file _) =>
              .ok [⟨path, names ++ [name]⟩]
          | some (.directory entries) =>
              match (inside :: outer).find? (·.place == place) with
              | some ancestor =>
                  .error (.loop path ancestor.path)
              | none =>
                  match links with
                  | 0 =>
                      .ok []
                  | left + 1 =>
                      walkEntries system left ⟨path, place⟩
                        (inside :: outer) (names ++ [name]) entries
          | _ =>
              .error (.unreadable path .notFound)
  termination_by entry => (links, sizeOf entry)

end

/-- The files below the directory that a path leads to. -/
def walk
    (system : FileSystem)
    (path : String) :
    Except WalkFault (List Visit) :=
  match system.resolveFrom system.workingDirectory path with
  | .error fault =>
      .error (.unreadable path fault)
  | .ok place =>
      match system.entry? place with
      | some (.directory entries) =>
          walkEntries system system.root.directoryCount ⟨path, place⟩ []
            [] entries
      | _ =>
          .error (.unreadable path .notDirectory)

end ApiIndex.Files

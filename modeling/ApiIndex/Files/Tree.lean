import ApiIndex.Files.Path

namespace ApiIndex.Files

/-!
# File trees

A file system is a tree of directories with files and symbolic links, and a
working directory.  A path is resolved piece by piece from the working
directory or, if it starts with a slash, from the root.  A link is replaced by
the path that it holds; more than forty links on the way are too many.

A directory is identified by the names that lead to it from the root without
any link, innermost first.
-/

/-- What a name in a directory stands for. -/
inductive Entry where
  | file (content : ByteArray)
  | link (target : String)
  | directory (entries : List (String × Entry))
  deriving Inhabited

/-- The names that lead from the root to a place, innermost first. -/
abbrev Place :=
  List String

/-- A tree of files with a working directory. -/
structure FileSystem where
  root : Entry
  workingDirectory : Place := []

/-- Why a path cannot be read. -/
inductive Fault where
  | notFound
  | notDirectory
  | isDirectory
  | tooManyLinks
  | notText
  deriving Repr, DecidableEq

/-- The wording of a fault. -/
def Fault.message : Fault → String
  | .notFound => "No such file or directory (os error 2)"
  | .notDirectory => "Not a directory (os error 20)"
  | .isDirectory => "Is a directory (os error 21)"
  | .tooManyLinks => "Too many levels of symbolic links (os error 40)"
  | .notText => "stream did not contain valid UTF-8"

namespace Entry

/-- The entry of a name in a directory. -/
def child?
    (name : String) :
    Entry →
      Option Entry
  | .directory entries =>
      (entries.find? (·.1 == name)).map (·.2)
  | _ =>
      none

/-- The entry that a list of names leads to, outermost first. -/
def descend? :
    Entry →
      List String →
      Option Entry
  | entry, [] =>
      some entry
  | entry, name :: rest =>
      (entry.child? name).bind fun inner => descend? inner rest

/-- Whether an entry is a directory. -/
def isDirectory : Entry → Bool
  | .directory _ => true
  | _ => false

mutual

/-- The number of directories of a tree. -/
def directoryCount : Entry → Nat
  | .directory entries =>
      1 + directoryCounts entries
  | _ =>
      0

/-- The number of directories below the entries of a directory. -/
def directoryCounts : List (String × Entry) → Nat
  | [] =>
      0
  | entry :: rest =>
      directoryCountNamed entry + directoryCounts rest

/-- The number of directories of a named tree. -/
def directoryCountNamed : String × Entry → Nat
  | (_, entry) =>
      directoryCount entry

end

/-- Put an entry under a name, in name order.  An entry that the name had is
replaced. -/
def putNamed
    (name : String)
    (entry : Entry) :
    List (String × Entry) →
      List (String × Entry)
  | [] =>
      [(name, entry)]
  | (other, existing) :: rest =>
      if name < other then
        (name, entry) :: (other, existing) :: rest
      else if name = other then
        (name, entry) :: rest
      else
        (other, existing) :: putNamed name entry rest

/-- The entries of a directory; none for anything else. -/
def entries : Entry → List (String × Entry)
  | .directory entries =>
      entries
  | _ =>
      []

/-- Put an entry at the end of a list of names, making directories on the way.
A directory that is there already stays. -/
def insert
    (added : Entry) :
    List String →
      Entry →
      Entry
  | [], existing =>
      match added, existing with
      | .directory [], .directory entries =>
          .directory entries
      | _, _ =>
          added
  | name :: rest, existing =>
      let inner := (existing.child? name).getD (.directory [])
      .directory (putNamed name (insert added rest inner) existing.entries)

end Entry

namespace FileSystem

/-- The entry at a place. -/
def entry?
    (system : FileSystem)
    (place : Place) :
    Option Entry :=
  system.root.descend? place.reverse

/-- How many links may be followed on the way to one file. -/
def linkLimit : Nat :=
  40

/-- Where a path starts: at the root or at the given place. -/
def origin
    (place : Place)
    (path : List Char) :
    Place :=
  match path with
  | '/' :: _ =>
      []
  | _ =>
      place

/-- Follow the pieces of a path from a place that is no link. -/
def follow
    (system : FileSystem)
    (links : Nat)
    (place : Place) :
    List (List Char) →
      Except Fault Place
  | [] =>
      .ok place
  | piece :: rest =>
      match system.entry? place with
      | some (.directory entries) =>
          if piece = [] ∨ piece = ['.'] then
            follow system links place rest
          else if piece = ['.', '.'] then
            follow system links place.tail rest
          else
            match (Entry.directory entries).child? (String.ofList piece) with
            | none =>
                .error .notFound
            | some (.link target) =>
                match links with
                | 0 =>
                    .error .tooManyLinks
                | left + 1 =>
                    if target.isEmpty then
                      .error .notFound
                    else
                      follow system left (origin place target.toList)
                        (pieces target.toList ++ rest)
            | some _ =>
                follow system links (String.ofList piece :: place) rest
      | _ =>
          .error .notDirectory
  termination_by path => (links, path.length)

/-- The place that a path leads to from a place, links followed. -/
def resolveFrom
    (system : FileSystem)
    (place : Place)
    (path : String) :
    Except Fault Place :=
  if path.isEmpty then
    .error .notFound
  else
    system.follow linkLimit (origin place path.toList) (pieces path.toList)

/-- The place and the entry that a path leads to, links followed. -/
def lookup
    (system : FileSystem)
    (path : String) :
    Except Fault Entry :=
  match system.resolveFrom system.workingDirectory path with
  | .error fault =>
      .error fault
  | .ok place =>
      match system.entry? place with
      | none =>
          .error .notFound
      | some entry =>
          .ok entry

/-- Whether a path leads to a directory. -/
def isDirectory
    (system : FileSystem)
    (path : String) :
    Bool :=
  match system.lookup path with
  | .ok (.directory _) => true
  | _ => false

/-- Whether a path leads to a file. -/
def isFile
    (system : FileSystem)
    (path : String) :
    Bool :=
  match system.lookup path with
  | .ok (.file _) => true
  | _ => false

/-- The text of the file that a path leads to. -/
def readText
    (system : FileSystem)
    (path : String) :
    Except Fault String :=
  match system.lookup path with
  | .error fault =>
      .error fault
  | .ok (.file content) =>
      match String.fromUTF8? content with
      | some text =>
          .ok text
      | none =>
          .error .notText
  | .ok (.directory _) =>
      .error .isDirectory
  | .ok (.link _) =>
      .error .notFound

end FileSystem

end ApiIndex.Files

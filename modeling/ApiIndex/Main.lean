import ApiIndex.Command.Run

namespace ApiIndex.Main

open ApiIndex.Files (Entry FileSystem join pieces)

/-!
# The program

The files that a request names are copied into a file tree, with everything
below them.  The request is then carried out on the copy.  A link to a directory
is copied as that directory, unless the copy would never end; a link that leads
nowhere stays one.
-/

/-- The path from a directory to the one `levels` above it. -/
def upwards
    (levels : Nat) :
    String :=
  "/".intercalate ("." :: List.replicate levels "..")

/-- What is at a path, without the content of a directory. -/
def readKind
    (path : String) :
    IO Entry := do
  try
    if ← (← IO.FS.realPath path).isDir then
      return .directory []
    else
      return .file (← IO.FS.readBinFile path)
  catch _ =>
    return .link ""

mutual

/-- Copy what is at a path, inside the directories with the given real paths,
innermost first. -/
partial def readEntry
    (inside : List String)
    (path : String) :
    IO Entry := do
  try
    let found ← IO.FS.realPath path
    let real := found.toString
    if ← found.isDir then
      match if real = path then none else inside.idxOf? real with
      | some levels =>
          return .link (upwards levels)
      | none =>
          readDirectory inside real
    else
      return .file (← IO.FS.readBinFile path)
  catch _ =>
    return .link ""

/-- Copy a directory with everything below it. -/
partial def readDirectory
    (inside : List String)
    (real : String) :
    IO Entry := do
  let mut entries := []
  for item in ← (← IO.FS.realPath real).readDir do
    let entry ← readEntry (real :: inside) (join real item.fileName)
    entries := Entry.putNamed item.fileName entry entries
  return .directory entries

end

/-- Copy what the pieces of a path lead to from a directory, and the directories
on the way.  The names of the directory are given innermost first. -/
def addPieces
    (root : Entry)
    (names : List String) :
    List (List Char) →
      IO Entry
  | [] => do
      let path := "/" ++ "/".intercalate names.reverse
      return Entry.insert (← readEntry [] path) names.reverse root
  | piece :: rest => do
      if piece = [] ∨ piece = ['.'] then
        addPieces root names rest
      else if piece = ['.', '.'] then
        addPieces root names.tail rest
      else
        let inner := String.ofList piece :: names
        let path := "/" ++ "/".intercalate inner.reverse
        let entry ← readKind path
        let extended := Entry.insert entry inner.reverse root
        if entry.isDirectory then
          addPieces extended inner rest
        else
          return extended

/-- Copy what paths lead to from the working directory. -/
def snapshot
    (paths : List String) :
    IO FileSystem := do
  let here := (← IO.currentDir).toString
  let names := (pieces here.toList).filterMap fun piece =>
    if piece = [] then none else some (String.ofList piece)
  let mut root := Entry.insert (.directory []) names (.directory [])
  for path in paths do
    let start := FileSystem.origin names.reverse path.toList
    root ← addPieces root start (pieces path.toList)
  return { root := root, workingDirectory := names.reverse }

end ApiIndex.Main

open ApiIndex in
/-- Carry out a command line on the files of the machine. -/
def main
    (arguments : List String) :
    IO UInt32 := do
  let paths :=
    match Command.readRequest arguments with
    | .ok request =>
        request.paths Config.fileName
    | .error _ =>
        []
  let outcome := Command.run (← Main.snapshot paths) arguments
  IO.print outcome.stdout
  IO.eprint outcome.stderr
  return UInt32.ofNat outcome.exit

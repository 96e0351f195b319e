import ApiIndex.Batch
import ApiIndex.BuildError

namespace ApiIndex.Collect

open ApiIndex.Batch (Source)
open ApiIndex.Files (FileSystem Visit comparePaths components walk)

/-!
# Collecting documents

Documents are given by paths.  A directory stands for the files below it whose
name ends in the suffix; any other path stands for itself.  The documents come
in path order, each path once, and are named by their path without the suffix:
the path as given, or from the directory on.
-/

/-- A document that has been found: its path and its name. -/
structure Found where
  path : String
  name : String
  deriving Repr, DecidableEq

/-- A text without a suffix, if it ends in it. -/
def stripSuffix
    (suffix text : String) :
    String :=
  if suffix.toList.isSuffixOf text.toList then
    String.ofList
      (text.toList.take (text.toList.length - suffix.toList.length))
  else
    text

/-- The name of a document from the texts of its path. -/
def documentName
    (suffix : String)
    (texts : List String) :
    String :=
  stripSuffix suffix ("/".intercalate texts)

/-- Whether the file name of a visit ends in a suffix. -/
def hasSuffix
    (suffix : String)
    (visit : Visit) :
    Bool :=
  match visit.names.getLast? with
  | some name =>
      suffix.toList.isSuffixOf name.toList
  | none =>
      false

/-- The documents that one path stands for. -/
def findAt
    (system : FileSystem)
    (suffix : String)
    (path : String) :
    Except BuildError (List Found) :=
  if system.isDirectory path then
    match walk system path with
    | .error fault =>
        .error (.walk fault)
    | .ok visits =>
        .ok ((visits.filter (hasSuffix suffix)).map fun visit =>
          ⟨visit.path, documentName suffix visit.names⟩)
  else
    .ok [⟨path, documentName suffix ((components path).map (·.text))⟩]

/-- The documents that paths stand for, in the order of the paths. -/
def findAll
    (system : FileSystem)
    (suffix : String) :
    List String →
      Except BuildError (List Found)
  | [] =>
      .ok []
  | path :: rest =>
      match findAt system suffix path with
      | .error error =>
          .error error
      | .ok found =>
          match findAll system suffix rest with
          | .error error =>
              .error error
          | .ok more =>
              .ok (found ++ more)

/-- Compare documents by path. -/
def Found.compare
    (left right : Found) :
    Ordering :=
  comparePaths (components left.path) (components right.path)

/-- Remove the documents whose path is the one before them. -/
def dropRepeated
    (previous : Found) :
    List Found →
      List Found
  | [] =>
      []
  | found :: rest =>
      if previous.compare found = .eq then
        dropRepeated previous rest
      else
        found :: dropRepeated found rest

/-- Documents in path order, the first of each path. -/
def arrange
    (found : List Found) :
    List Found :=
  match found.mergeSort fun left right => left.compare right != .gt with
  | [] =>
      []
  | first :: rest =>
      first :: dropRepeated first rest

/-- Read documents one after the other. -/
def readAll
    (system : FileSystem) :
    List Found →
      Except BuildError (List Source)
  | [] =>
      .ok []
  | found :: rest =>
      match system.readText found.path with
      | .error fault =>
          .error (.io fault)
      | .ok text =>
          match readAll system rest with
          | .error error =>
              .error error
          | .ok sources =>
              .ok (⟨found.name, text⟩ :: sources)

/-- Find and read the documents that paths stand for. -/
def collect
    (system : FileSystem)
    (suffix : String)
    (paths : List String) :
    Except BuildError (List Source) :=
  match findAll system suffix paths with
  | .error error =>
      .error error
  | .ok found =>
      readAll system (arrange found)

end ApiIndex.Collect

namespace ApiIndex.Files

/-!
# Paths

A path is written as names between slashes.  As a sequence of components it
does not show repeated slashes, a slash at its end or a dot between slashes; a
dot at its start stays.  Paths are compared component by component: the root
before a dot, a dot before two dots, two dots before any name, and names by
their characters.
-/

/-- One step of a path. -/
inductive Component where
  | root
  | here
  | up
  | name (text : String)
  deriving Repr, DecidableEq

namespace Component

/-- A component as it is written. -/
def text : Component → String
  | .root => "/"
  | .here => "."
  | .up => ".."
  | .name text => text

/-- The place of a component among the four sorts. -/
def rank : Component → Nat
  | .root => 0
  | .here => 1
  | .up => 2
  | .name _ => 3

/-- The order of components. -/
def compare : Component → Component → Ordering
  | .name left, .name right =>
      compareOfLessAndEq left right
  | left, right =>
      compareOfLessAndEq left.rank right.rank

end Component

/-- The order of paths: the first component that differs decides, and a path
comes before its continuations. -/
def comparePaths :
    List Component →
      List Component →
      Ordering
  | [], [] =>
      .eq
  | [], _ :: _ =>
      .lt
  | _ :: _, [] =>
      .gt
  | left :: lefts, right :: rights =>
      (left.compare right).then (comparePaths lefts rights)

/-- The texts between the slashes of a path. -/
def pieces :
    List Char →
      List (List Char)
  | [] =>
      [[]]
  | character :: rest =>
      match pieces rest with
      | [] =>
          [[character]]
      | piece :: more =>
          if character = '/' then
            [] :: piece :: more
          else
            (character :: piece) :: more

/-- The component of a piece behind the first one, if it counts. -/
def innerComponent?
    (piece : List Char) :
    Option Component :=
  if piece = [] ∨ piece = ['.'] then
    none
  else if piece = ['.', '.'] then
    some .up
  else
    some (.name (String.ofList piece))

/-- The components of a path. -/
def components
    (path : String) :
    List Component :=
  match path.toList with
  | '/' :: rest =>
      .root :: (pieces rest).filterMap innerComponent?
  | text =>
      match pieces text with
      | ['.'] :: more =>
          .here :: more.filterMap innerComponent?
      | all =>
          all.filterMap innerComponent?

/-- The path of a name inside a directory. -/
def join
    (directory name : String) :
    String :=
  match directory.toList.getLast? with
  | none =>
      name
  | some '/' =>
      directory ++ name
  | some _ =>
      directory ++ "/" ++ name

end ApiIndex.Files

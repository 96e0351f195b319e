import ApiIndex.Text.Joining

namespace ApiIndex.Command

open ApiIndex.Text (displayWidth)

/-!
# Text tables

Rows of cells in columns of equal width.  A cell has one space on either side
and is filled up at its right; bars divide the columns, and one rule of dashes
lies below the first row.  A cell with line breaks makes its row higher.
-/

/-- The lines of a cell. -/
def cellLines :
    List Char →
      List (List Char)
  | [] =>
      [[]]
  | character :: rest =>
      match cellLines rest with
      | [] =>
          [[character]]
      | line :: more =>
          if character = '\n' then
            [] :: line :: more
          else
            (character :: line) :: more

/-- The number of columns of text that a cell takes. -/
def cellWidth
    (cell : String) :
    Nat :=
  ((cellLines cell.toList).map displayWidth).foldl max 0

/-- The widths that columns need for rows of cells. -/
def columnWidths :
    List (List String) →
      List Nat
  | [] =>
      []
  | [row] =>
      row.map cellWidth
  | row :: rest =>
      List.zipWith max (row.map cellWidth) (columnWidths rest)

/-- One line of a cell, filled up to the width of its column. -/
def cellLine
    (index : Nat)
    (cell : String)
    (width : Nat) :
    String :=
  let line := (cellLines cell.toList)[index]?.getD []
  String.ofList
    (' ' :: line ++ List.replicate (width - displayWidth line) ' ' ++ [' '])

/-- The number of lines of a row. -/
def rowHeight
    (row : List String) :
    Nat :=
  (row.map fun cell => (cellLines cell.toList).length).foldl max 1

/-- The lines of a row. -/
def rowLines
    (widths : List Nat)
    (row : List String) :
    List String :=
  (List.range (rowHeight row)).map fun index =>
    "|".intercalate (List.zipWith (cellLine index) row widths)

/-- The rule below the first row. -/
def ruleLine
    (widths : List Nat) :
    String :=
  "+".intercalate
    (widths.map fun width => String.ofList (List.replicate (width + 2) '-'))

/-- The lines of a table with a header row. -/
def tableLines
    (header : List String)
    (rows : List (List String)) :
    List String :=
  let widths := columnWidths (header :: rows)
  rowLines widths header ++ [ruleLine widths] ++
    rows.flatMap (rowLines widths)

end ApiIndex.Command

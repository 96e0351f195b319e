namespace ApiIndex.Text

/-!
# Lines

A line ends at a line feed, and one carriage return directly before the line
feed belongs to the ending.  A text that ends in a line feed has no further
line after it, and a last line without a line feed keeps its carriage return.
-/

/-- The lines of a text without their endings. -/
def lines :
    List Char →
      List (List Char)
  | [] =>
      []
  | '\n' :: rest =>
      [] :: lines rest
  | '\r' :: '\n' :: rest =>
      [] :: lines rest
  | character :: rest =>
      match lines rest with
      | [] =>
          [[character]]
      | line :: more =>
          (character :: line) :: more

end ApiIndex.Text

import ApiIndex.Bracket.Scan
import ApiIndex.Text.Blank

namespace ApiIndex.Signature

open ApiIndex.Text
open ApiIndex.Bracket (scan)

/-!
# Argument lists

The interior of an argument list is cut at the commas that no bracket encloses.
A blank interior has no entries; a blank entry between two commas is kept as an
empty text, so that the reader of the list can say where it stands.
-/

/-- The trimmed entries of the interior of an argument list. -/
def splitArguments
    (inner : List Char) :
    Except Bracket.Error (List String) :=
  match scan inner with
  | .error error =>
      .error error
  | .ok scanned =>
      if inner.all isBlank then
        .ok []
      else
        .ok ((scanned.splitTop ',' scanned.whole).map fun span =>
          String.ofList (trim (slice inner span)))

end ApiIndex.Signature

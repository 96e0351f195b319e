import ApiIndex.Bracket.Depth
import ApiIndex.Text.Span

namespace ApiIndex.Bracket

open ApiIndex.Text

/-!
# Scanning brackets

One pass over a text marks every bracket and every separator with the depth
that encloses it: an opener carries the depth before it opens, a closer the
depth after it closes, so the two brackets of a pair carry the same depth of
their family.  The pass fails at the first closer without an opener and, when
the text ends, on the first family that is still open.

The questions below search the marks: occurrences at top level inside a span,
the pieces between them, and the closer that belongs to an opener.
-/

/-- Why brackets do not balance. -/
inductive Error where
  | unexpectedCloser (family : Family) (offset : Nat)
  | unclosed (family : Family) (count : Nat)
  deriving Repr, DecidableEq

/-- The wording of an imbalance. -/
def Error.message : Error → String
  | .unexpectedCloser family offset =>
      "unexpected " ++ family.quoted ++ " closer at offset " ++ offset.repr
  | .unclosed family count =>
      count.repr ++ " unclosed " ++ family.quoted ++ " bracket(s)"

/-- A bracket or separator, where it stands, and the depth around it. -/
structure Mark where
  offset : Nat
  character : Char
  depth : Depth
  deriving Repr, DecidableEq

/-- A text with the marks of its brackets and separators, in text order. -/
structure Scan where
  text : List Char
  marks : List Mark
  deriving Repr, DecidableEq

/-- The first family that is open, with its number of open brackets. -/
def Depth.unclosed?
    (depth : Depth) :
    Option Error :=
  (Family.all.find? fun family => depth.get family != 0).map
    fun family => .unclosed family (depth.get family)

/-- Mark the rest of a text that starts at `offset`, inside `depth`. -/
def marksFrom
    (offset : Nat)
    (depth : Depth) :
    List Char →
      Except Error (List Mark)
  | [] =>
      match depth.unclosed? with
      | some error =>
          .error error
      | none =>
          .ok []
  | character :: rest =>
      let next := offset + character.utf8Size
      match Family.ofOpener? character with
      | some family =>
          (marksFrom next (depth.enter family) rest).map
            (⟨offset, character, depth⟩ :: ·)
      | none =>
          match Family.ofCloser? character with
          | some family =>
              if depth.get family = 0 then
                .error (.unexpectedCloser family offset)
              else
                (marksFrom next (depth.leave family) rest).map
                  (⟨offset, character, depth.leave family⟩ :: ·)
          | none =>
              if isSeparator character then
                (marksFrom next depth rest).map
                  (⟨offset, character, depth⟩ :: ·)
              else
                marksFrom next depth rest

/-- Mark a whole text. -/
def scan
    (text : List Char) :
    Except Error Scan :=
  (marksFrom 0 {} text).map fun marks => ⟨text, marks⟩

namespace Mark

/-- Whether a mark is the given character at top level. -/
def isTopLevel
    (mark : Mark)
    (character : Char) :
    Bool :=
  mark.character == character && mark.depth.isTop

end Mark

namespace Scan

/-- The whole of the text as a span. -/
def whole
    (scanned : Scan) :
    Span :=
  ⟨0, byteSize scanned.text⟩

/-- The index of the first mark that does not stand before an offset, or the
number of marks if all of them do. -/
def markIndex
    (scanned : Scan)
    (offset : Nat) :
    Nat :=
  scanned.marks.findIdx fun mark => offset ≤ mark.offset

/-- The marks inside a span, which stand next to each other because marks are
in text order. -/
def marksIn
    (scanned : Scan)
    (span : Span) :
    List Mark :=
  (scanned.marks.take (scanned.markIndex span.stop)).drop
    (scanned.markIndex span.start)

/-- The first occurrence of a character at top level inside a span. -/
def findTop?
    (scanned : Scan)
    (character : Char)
    (span : Span) :
    Option Nat :=
  ((scanned.marksIn span).find? (·.isTopLevel character)).map (·.offset)

/-- The last occurrence of a character at top level inside a span. -/
def findLastTop?
    (scanned : Scan)
    (character : Char)
    (span : Span) :
    Option Nat :=
  ((scanned.marksIn span).reverse.find? (·.isTopLevel character)).map
    (·.offset)

/-- Cut the stretch from `start` to `stop` at the marks of a separator at top
level. -/
def piecesFrom
    (separator : Char)
    (stop : Nat) :
    Nat →
      List Mark →
      List Span
  | start, [] =>
      [⟨start, stop⟩]
  | start, mark :: rest =>
      if mark.isTopLevel separator then
        ⟨start, mark.offset⟩ ::
          piecesFrom separator stop
            (mark.offset + separator.utf8Size) rest
      else
        piecesFrom separator stop start rest

/-- The pieces of a span between the occurrences of a separator at top
level. -/
def splitTop
    (scanned : Scan)
    (separator : Char)
    (span : Span) :
    List Span :=
  piecesFrom separator span.stop span.start (scanned.marksIn span)

/-- Among the marks behind an opener, the first closer of its family at the
depth of the opener. -/
def closerAfter?
    (family : Family)
    (level : Nat)
    (marks : List Mark) :
    Option Nat :=
  (marks.find? fun mark =>
    mark.character == family.closer && mark.depth.get family == level).map
      (·.offset)

/-- The closer that belongs to the opener at an offset. -/
def closerOf?
    (scanned : Scan)
    (offset : Nat) :
    Option Nat :=
  match scanned.marks.dropWhile (·.offset < offset) with
  | [] =>
      none
  | mark :: later =>
      if mark.offset = offset then
        match Family.ofOpener? mark.character with
        | some family =>
            closerAfter? family (mark.depth.get family) later
        | none =>
            none
      else
        none

end Scan

end ApiIndex.Bracket

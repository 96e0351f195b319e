import ApiIndex.Signature.Failure
import ApiIndex.Text.Blank
import ApiIndex.Text.Numeric

namespace ApiIndex.Signature

open ApiIndex.Text
open ApiIndex.Bracket (Family Scan scan)

/-!
# Segments of a dotted name

A segment is an identifier followed by suffixes: a type arity (a backtick and
digits), a method arity (two backticks and digits), one generic group between
angle brackets or braces, and an indexer between square brackets, which ends
the segment.  Reading the suffixes advances a cursor over the rest of the
segment; every suffix takes at least one character, so the reading ends.
-/

/-- Where a segment stands in the dotted name. -/
inductive Position where
  | qualifier
  | member
  | callableMember
  deriving Repr, DecidableEq

namespace Position

/-- Only the member of a callable declaration may have a method arity. -/
def allowsMethodArity : Position → Bool
  | .callableMember => true
  | _ => false

/-- Only the member may have an indexer. -/
def allowsIndexer : Position → Bool
  | .qualifier => false
  | _ => true

end Position

/-- The suffixes that a segment has shown so far. -/
structure Suffixes where
  typeArity : Bool := false
  methodArity : Bool := false
  generic : Bool := false
  indexer : Bool := false
  deriving Repr, DecidableEq

/-- How far the suffixes of a segment have been read. -/
structure Cursor where
  seen : Suffixes
  /-- The offset of the rest in the whole text. -/
  offset : Nat
  /-- The rest of the segment. -/
  rest : List Char
  deriving Repr, DecidableEq

/-- Whether a character may stand inside a generic group or an indexer. -/
def isGroupCharacter
    (character : Char) :
    Bool :=
  isIdentifier character || isBlank character ||
    ['.', ',', '\x60', '<', '>', '\x7b', '\x7d', '[', ']', '?', '*', '&'].contains
      character

/-- The first character that may not stand inside a group, with its offset. -/
def firstOutsider? :
    Nat →
      List Char →
      Option (Char × Nat)
  | _, [] =>
      none
  | offset, character :: rest =>
      if isGroupCharacter character then
        firstOutsider? (offset + character.utf8Size) rest
      else
        some (character, offset)

/-- The interior of a group has type name characters only and balances by
itself. -/
def checkGroup
    (offset : Nat)
    (interior : List Char) :
    Except Failure Unit :=
  match firstOutsider? offset interior with
  | some (character, outside) =>
      .error (.disallowedCharacter character outside)
  | none =>
      match scan interior with
      | .error error =>
          .error (.brackets error)
      | .ok _ =>
          .ok ()

/-- Read one arity: backticks, then digits. -/
def readArity
    (position : Position)
    (cursor : Cursor) :
    Except Failure Cursor :=
  let ticks := cursor.rest.takeWhile (· == '\x60')
  let afterTicks := cursor.rest.dropWhile (· == '\x60')
  let digits := afterTicks.takeWhile isAsciiDigit
  let next := cursor.offset + ticks.length + digits.length
  let rest := afterTicks.dropWhile isAsciiDigit
  let seen := cursor.seen
  if 2 < ticks.length ∨ digits = [] then
    .error (.malformedArity cursor.offset)
  else if ticks.length = 1 then
    if seen.methodArity then
      .error (.arityOrder cursor.offset)
    else if seen.typeArity then
      .error (.repeatedArity cursor.offset)
    else
      .ok ⟨{ seen with typeArity := true }, next, rest⟩
  else if !position.allowsMethodArity then
    .error (.methodArityNotAllowed cursor.offset)
  else if seen.methodArity then
    .error (.repeatedArity cursor.offset)
  else
    .ok ⟨{ seen with methodArity := true }, next, rest⟩

/-- Note a generic group or an indexer, unless the position or an earlier group
forbids it. -/
def noteGroup
    (position : Position)
    (family : Family)
    (offset : Nat)
    (seen : Suffixes) :
    Except Failure Suffixes :=
  if family = .square then
    if position.allowsIndexer then
      .ok { seen with indexer := true }
    else
      .error (.indexerNotAllowed offset)
  else if seen.generic then
    .error (.repeatedGroup family offset)
  else
    .ok { seen with generic := true }

/-- Read one group up to its closer, which stands before `stop`.  The interior
starts behind the opener, where `inside` starts. -/
def readGroup
    (scanned : Scan)
    (position : Position)
    (stop : Nat)
    (family : Family)
    (cursor : Cursor)
    (inside : List Char) :
    Except Failure Cursor :=
  match (scanned.closerOf? cursor.offset).filter (· < stop) with
  | none =>
      .error (.brackets (.unclosed family 1))
  | some close =>
      match checkGroup (cursor.offset + 1)
          (takeBytes (close - (cursor.offset + 1)) inside) with
      | .error failure =>
          .error failure
      | .ok () =>
          match noteGroup position family cursor.offset cursor.seen with
          | .error failure =>
              .error failure
          | .ok seen =>
              .ok ⟨seen, close + 1,
                dropBytes (close - cursor.offset) inside⟩

/-- Read the suffix that starts with `character`, before `inside`. -/
def readSuffix
    (scanned : Scan)
    (position : Position)
    (stop : Nat)
    (cursor : Cursor)
    (character : Char)
    (inside : List Char) :
    Except Failure Cursor :=
  if cursor.seen.indexer then
    .error (.afterIndexer cursor.offset)
  else if character = '\x60' then
    readArity position cursor
  else
    match Family.ofOpener? character with
    | none =>
        .error (.disallowedCharacter character cursor.offset)
    | some .paren =>
        .error (.disallowedCharacter character cursor.offset)
    | some family =>
        readGroup scanned position stop family cursor inside

private theorem length_dropWhile_le
    (accept : Char → Bool)
    (text : List Char) :
    (text.dropWhile accept).length ≤ text.length :=
  (List.dropWhile_suffix accept).length_le

/-- Reading a suffix leaves a shorter rest. -/
theorem length_rest_of_readSuffix
    {scanned : Scan}
    {position : Position}
    {stop : Nat}
    {cursor next : Cursor}
    {character : Char}
    {inside : List Char}
    (shape : cursor.rest = character :: inside)
    (read :
      readSuffix scanned position stop cursor character inside =
        .ok next) :
    next.rest.length < cursor.rest.length := by
  have arityShorter
      (isTick : character = '\x60') :
      ((cursor.rest.dropWhile (· == '\x60')).dropWhile
        isAsciiDigit).length < cursor.rest.length := by
    rw [shape, isTick, List.dropWhile_cons_of_pos (by rfl),
      List.length_cons]
    exact Nat.lt_succ_of_le
      (Nat.le_trans (length_dropWhile_le _ _)
        (length_dropWhile_le _ _))
  have groupShorter
      (count : Nat) :
      (dropBytes count inside).length < cursor.rest.length := by
    rw [shape, List.length_cons]
    exact Nat.lt_succ_of_le (length_dropBytes_le count inside)
  have groupRest
      {family : Family}
      (readHere :
        readGroup scanned position stop family cursor inside =
          .ok next) :
      next.rest.length < cursor.rest.length := by
    unfold readGroup at readHere
    split at readHere
    · contradiction
    · split at readHere
      · contradiction
      · split at readHere
        · contradiction
        · cases readHere
          exact groupShorter _
  unfold readSuffix at read
  split at read
  · contradiction
  · split at read
    · next isTick =>
        unfold readArity at read
        simp only at read
        split at read
        · contradiction
        · split at read
          · split at read
            · contradiction
            · split at read
              · contradiction
              · cases read
                exact arityShorter isTick
          · split at read
            · contradiction
            · split at read
              · contradiction
              · cases read
                exact arityShorter isTick
    · split at read
      · contradiction
      · contradiction
      · exact groupRest read

/-- Read suffixes until the segment ends. -/
def readSuffixes
    (scanned : Scan)
    (position : Position)
    (stop : Nat)
    (cursor : Cursor) :
    Except Failure Unit :=
  match _shape : cursor.rest with
  | [] =>
      .ok ()
  | character :: inside =>
      match _read :
          readSuffix scanned position stop cursor character inside with
      | .error failure =>
          .error failure
      | .ok next =>
          readSuffixes scanned position stop next
  termination_by cursor.rest.length
  decreasing_by
    exact length_rest_of_readSuffix ‹_› ‹_›

/-- Check the segment of a scanned text that a span covers. -/
def checkSegment
    (scanned : Scan)
    (position : Position)
    (span : Span) :
    Except Failure Unit :=
  match slice scanned.text span with
  | [] =>
      .error (.emptySegment span.start)
  | character :: rest =>
      let segment := character :: rest
      if !isIdentifier character || isNumeric character then
        .error (.disallowedCharacter character span.start)
      else
        readSuffixes scanned position span.stop
          ⟨{}, span.start + byteSize (segment.takeWhile isIdentifier),
            segment.dropWhile isIdentifier⟩

end ApiIndex.Signature

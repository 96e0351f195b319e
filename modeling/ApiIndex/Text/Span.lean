namespace ApiIndex.Text

/-!
# Byte offsets

Positions in a text count the bytes of its UTF-8 form.  A text is a list of
characters; cutting it at an offset that falls inside a character cuts after
that character, so `takeBytes` and `dropBytes` always divide the text and never
a character.
-/

/-- A half-open range of byte offsets. -/
structure Span where
  start : Nat
  stop : Nat
  deriving Repr, DecidableEq

/-- The number of bytes of a text. -/
def byteSize :
    List Char →
      Nat
  | [] =>
      0
  | character :: rest =>
      character.utf8Size + byteSize rest

/-- The text from a byte offset on. -/
def dropBytes :
    Nat →
      List Char →
      List Char
  | 0, text =>
      text
  | _ + 1, [] =>
      []
  | count + 1, character :: rest =>
      dropBytes (count + 1 - character.utf8Size) rest

/-- The text before a byte offset. -/
def takeBytes :
    Nat →
      List Char →
      List Char
  | 0, _ =>
      []
  | _ + 1, [] =>
      []
  | count + 1, character :: rest =>
      character :: takeBytes (count + 1 - character.utf8Size) rest

/-- The part of a text that a span covers. -/
def slice
    (text : List Char)
    (span : Span) :
    List Char :=
  takeBytes (span.stop - span.start) (dropBytes span.start text)

@[simp] theorem byteSize_nil :
    byteSize [] = 0 :=
  rfl

@[simp] theorem byteSize_cons
    (character : Char)
    (rest : List Char) :
    byteSize (character :: rest) =
      character.utf8Size + byteSize rest :=
  rfl

/-- The size of a text is the sum of the sizes of its parts. -/
@[simp] theorem byteSize_append
    (left right : List Char) :
    byteSize (left ++ right) = byteSize left + byteSize right := by
  induction left with
  | nil =>
      simp
  | cons character rest inductionHypothesis =>
      simp [inductionHypothesis, Nat.add_assoc]

@[simp] theorem dropBytes_zero
    (text : List Char) :
    dropBytes 0 text = text := by
  cases text <;> rfl

@[simp] theorem takeBytes_zero
    (text : List Char) :
    takeBytes 0 text = [] := by
  cases text <;> rfl

/-- Cutting at an offset loses nothing. -/
theorem takeBytes_append_dropBytes
    (count : Nat)
    (text : List Char) :
    takeBytes count text ++ dropBytes count text = text := by
  fun_induction takeBytes count text with
  | case1 text =>
      simp
  | case2 count =>
      simp [dropBytes]
  | case3 count character rest inductionHypothesis =>
      simp [dropBytes, inductionHypothesis]

/-- The text from an offset on is no longer than the text. -/
theorem length_dropBytes_le
    (count : Nat)
    (text : List Char) :
    (dropBytes count text).length ≤ text.length := by
  have divided :=
    congrArg List.length (takeBytes_append_dropBytes count text)
  simp only [List.length_append] at divided
  omega

end ApiIndex.Text

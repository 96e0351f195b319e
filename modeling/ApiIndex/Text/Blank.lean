import ApiIndex.Text.CodeRanges

namespace ApiIndex.Text

/-!
# Blank characters and trimming

Blank means the Unicode property `White_Space`.  Trimming removes the blank
characters at the two ends of a text and keeps everything between them.
-/

/-- Code points with the property `White_Space`. -/
def blankRanges : List (Nat × Nat) :=
    [(0x9, 0xd), (0x20, 0x20), (0x85, 0x85), (0xa0, 0xa0), (0x1680, 0x1680),
     (0x2000, 0x200a), (0x2028, 0x2029), (0x202f, 0x202f), (0x205f, 0x205f), (0x3000, 0x3000)]

/-- Whether a character is blank. -/
def isBlank
    (character : Char) :
    Bool :=
  inRanges blankRanges character.toNat

/-- Remove the blank characters at the start. -/
def trimStart
    (text : List Char) :
    List Char :=
  text.dropWhile isBlank

/-- Remove the blank characters at the end. -/
def trimEnd
    (text : List Char) :
    List Char :=
  (text.reverse.dropWhile isBlank).reverse

/-- Remove the blank characters at both ends. -/
def trim
    (text : List Char) :
    List Char :=
  trimEnd (trimStart text)

end ApiIndex.Text

import ApiIndex.Text.Width

namespace ApiIndex.Text

/-!
# Columns of texts

A character may form one drawing with what follows it, and then takes other
columns than by itself.  A selector changes how the character before it is
drawn; a joiner ties pictographs into one; some scripts write two letters as
one.  A text is therefore measured from its end: the characters behind a
character are summed up by what they offer to it.
-/

/-- The character that joins its neighbours. -/
def joiner : Char :=
  '\u200d'

/-- How a selector asks for the character before it to be drawn. -/
inductive Selector where
  | wide
  | text
  | emoji
  deriving Repr, DecidableEq

/-- The selector that a character is. -/
def selector? : Char → Option Selector
  | '\ufe01' => some .wide
  | '\ufe0e' => some .text
  | '\ufe0f' => some .emoji
  | _ => none

/-- The last part of a ligature. -/
inductive LigatureEnd where
  /-- The Hebrew letter lamed. -/
  | lamed
  /-- The Buginese letter ya. -/
  | ya
  /-- The Buginese vowel sign i before a joined ya. -/
  | vowelYa
  /-- A Tifinagh consonant. -/
  | consonant
  /-- The Tifinagh consonant joiner before a consonant. -/
  | consonantJoiner
  /-- A Lisu tone letter of the second series. -/
  | tone
  /-- The Old Turkic letter orkhon i. -/
  | orkhon
  /-- A Khmer letter that can be written below another. -/
  | coengLetter
  deriving Repr, DecidableEq

/-- What the start of a text offers to the character before it. -/
inductive Following where
  | plain
  | lineFeed
  | skinTone
  | indicator
  | indicators
  | pictograph
  /-- A joiner before a pictograph. -/
  | tied
  /-- A keycap before a joiner and a pictograph. -/
  | tiedKeycap
  /-- One regional indicator before a joiner and a pictograph. -/
  | tiedIndicator
  /-- An even number of them, of which the first two are a flag. -/
  | tiedEven
  /-- An odd number of them, more than one. -/
  | tiedOdd
  /-- The end of a tag before a joiner and a pictograph. -/
  | tagEnd
  /-- Letters of such a tag. -/
  | tagLetters (count : Nat)
  /-- Digits of such a tag. -/
  | tagDigits (count : Nat)
  /-- The Kirat Rai vowel sign e. -/
  | vowelE
  /-- The Kirat Rai vowel sign ai. -/
  | vowelAi
  /-- The Arabic letter alef. -/
  | alef
  /-- The end of a ligature, behind a joiner or not. -/
  | ligature (ending : LigatureEnd) (joined : Bool)
  deriving Repr, DecidableEq

namespace Following

/-- Whether a selector in between leaves the offer standing. -/
def survivesSelector : Following → Bool
  | .alef => true
  | .ligature _ _ => true
  | _ => false

/-- Whether a drawing as emoji becomes one with a pictograph. -/
def isTied : Following → Bool
  | .tied => true
  | .tiedKeycap => true
  | _ => false

/-- The offer that is left before a selector. -/
def behind
    (following : Following)
    (selector : Selector) :
    Following :=
  if following.survivesSelector ||
      (selector == .emoji && following.isTied) then
    following
  else
    .plain

end Following

/-- What follows a character: perhaps a selector, and what stands behind it. -/
structure Lookahead where
  selector : Option Selector := none
  following : Following := .plain
  deriving Repr, DecidableEq

/-- Code points of the letter alef in its variants. -/
def alefRanges : List (Nat × Nat) :=
    [(0x622, 0x623), (0x625, 0x625), (0x627, 0x627), (0x671, 0x673), (0x675, 0x675),
     (0x773, 0x774), (0x870, 0x882)]

/-- Code points of the letter lam in its variants. -/
def lamRanges : List (Nat × Nat) :=
    [(0x644, 0x644), (0x6b5, 0x6b8), (0x76a, 0x76a), (0x8a6, 0x8a6), (0x8c7, 0x8c7)]

/-- Code points without a column that keep a lam from joining an alef. -/
def lamBreakerRanges : List (Nat × Nat) :=
    [(0x605, 0x605), (0x890, 0x891), (0x8e2, 0x8e2), (0x9be, 0x9be), (0x9d7, 0x9d7),
     (0xb3e, 0xb3e), (0xb57, 0xb57), (0xbbe, 0xbbe), (0xbd7, 0xbd7), (0xcc0, 0xcc0),
     (0xcc2, 0xcc2), (0xcc7, 0xcc8), (0xcca, 0xccb), (0xcd5, 0xcd6), (0xd3e, 0xd3e),
     (0xd4e, 0xd4e), (0xd57, 0xd57), (0xdcf, 0xdcf), (0xddf, 0xddf), (0x1160, 0x11ff),
     (0x1715, 0x1715), (0x1734, 0x1734), (0x180e, 0x180e), (0x1b35, 0x1b35), (0x1b3b, 0x1b3b),
     (0x1b3d, 0x1b3d), (0x1b43, 0x1b44), (0x1baa, 0x1baa), (0x1bf2, 0x1bf3), (0x200c, 0x200d),
     (0x2065, 0x2069), (0x302e, 0x302f), (0x3164, 0x3164), (0xa8fa, 0xa8fa), (0xa953, 0xa953),
     (0xa9c0, 0xa9c0), (0xd7b0, 0xd7c6), (0xd7cb, 0xd7fb), (0xffa0, 0xffa0), (0xfff0, 0xfff8),
     (0x111c0, 0x111c0), (0x111c2, 0x111c3), (0x11235, 0x11235), (0x1133e, 0x1133e), (0x1134d, 0x1134d),
     (0x11357, 0x11357), (0x113b8, 0x113b8), (0x113c2, 0x113c2), (0x113c5, 0x113c5), (0x113c7, 0x113c9),
     (0x113cf, 0x113cf), (0x113d1, 0x113d1), (0x114b0, 0x114b0), (0x114bd, 0x114bd), (0x115af, 0x115af),
     (0x116b6, 0x116b6), (0x11930, 0x11930), (0x1193d, 0x1193d), (0x1193f, 0x1193f), (0x11941, 0x11941),
     (0x11a84, 0x11a89), (0x11d46, 0x11d46), (0x11f02, 0x11f02), (0x11f41, 0x11f41), (0x16ff0, 0x16ff1),
     (0x1d165, 0x1d166), (0x1d16d, 0x1d172), (0xe0000, 0xe0000), (0xe0002, 0xe001f), (0xe0080, 0xe00ff),
     (0xe01f0, 0xe0fff)]

/-- Code points of Khmer letters that can be written below another. -/
def coengLetterRanges : List (Nat × Nat) :=
    [(0x1780, 0x1782), (0x1784, 0x1787), (0x1789, 0x178c), (0x178e, 0x1793), (0x1795, 0x1798),
     (0x179b, 0x179d), (0x17a0, 0x17a0), (0x17a2, 0x17a2), (0x17a7, 0x17a7), (0x17ab, 0x17ac),
     (0x17af, 0x17af)]

/-- Code points of Tifinagh consonants. -/
def consonantRanges : List (Nat × Nat) :=
    [(0x2d31, 0x2d65), (0x2d6f, 0x2d6f)]

/-- Code points that do not break a ligature. -/
def ligatureFillerRanges : List (Nat × Nat) :=
    [(0x34f, 0x34f), (0x17b4, 0x17b5), (0x180b, 0x180d), (0x180f, 0x180f), (0xfe00, 0xfe0f),
     (0xe0100, 0xe01ef)]

/-- Code points of Lisu tone letters of the first series. -/
def firstToneRanges : List (Nat × Nat) :=
    [(0xa4f8, 0xa4fb)]

/-- Code points of Lisu tone letters of the second series. -/
def secondToneRanges : List (Nat × Nat) :=
    [(0xa4fc, 0xa4fd)]

/-- Code points of quotation marks with a wide variant. -/
def quoteRanges : List (Nat × Nat) :=
    [(0x2018, 0x2019), (0x201c, 0x201d)]

/-- Code points of the letters of tags. -/
def tagLetterRanges : List (Nat × Nat) :=
    [(0xe0061, 0xe007a)]

/-- Code points of the digits of tags. -/
def tagDigitRanges : List (Nat × Nat) :=
    [(0xe0030, 0xe0039)]

/-- What a character offers to the character before it when it joins nothing
behind it. -/
def offer
    (character : Char) :
    Following :=
  if isPictograph character then
    .pictograph
  else if isSkinTone character then
    .skinTone
  else if isRegionalIndicator character then
    .indicator
  else if inRanges alefRanges character.toNat then
    .alef
  else if inRanges coengLetterRanges character.toNat then
    .ligature .coengLetter false
  else if inRanges consonantRanges character.toNat then
    .ligature .consonant false
  else if inRanges secondToneRanges character.toNat then
    .ligature .tone false
  else
    match character with
    | '\u05dc' => .ligature .lamed false
    | '\u1a10' => .ligature .ya false
    | '𐰃' => .ligature .orkhon false
    | '𖵧' => .vowelE
    | '𖵨' => .vowelAi
    | _ => .plain

/-- How a character completes the end of a ligature: its columns, and what the
two offer together. -/
def completeLigature?
    (character : Char)
    (ending : LigatureEnd)
    (joined : Bool) :
    Option (Int × Following) :=
  match ending with
  | .lamed =>
      if joined && character == '\u05d0' then
        some (0, .plain)
      else
        none
  | .ya =>
      if joined && character == '\u1a17' then
        some (0, .ligature .vowelYa true)
      else
        none
  | .vowelYa =>
      if character == '\u1a15' then
        some (0, .plain)
      else
        none
  | .consonant =>
      if character == '\u2d7f' then
        some (1, .ligature .consonantJoiner true)
      else if joined && inRanges consonantRanges character.toNat then
        some (0, .plain)
      else
        none
  | .consonantJoiner =>
      if inRanges consonantRanges character.toNat then
        some (-1, .plain)
      else
        none
  | .tone =>
      if inRanges firstToneRanges character.toNat then
        some (0, .plain)
      else
        none
  | .orkhon =>
      if joined && character == '𐰲' then
        some (0, .plain)
      else
        none
  | .coengLetter =>
      if character == '\u17d2' then
        some (-1, .plain)
      else
        none

/-- How a character stands before a joiner and a pictograph. -/
def joinTied?
    (character : Char) :
    Option (Int × Following) :=
  if character = '\u20e3' then
    some (0, .tiedKeycap)
  else if isRegionalIndicator character then
    some (1, .tiedIndicator)
  else if isSkinTone character then
    some (0, .skinTone)
  else if character.toNat = 0xe007f then
    some (0, .tagEnd)
  else if isPictograph character then
    some (0, .pictograph)
  else
    none

/-- How a character continues a tag towards its flag.  A tag has three to six
letters, or up to four letters behind three digits. -/
def joinTag?
    (character : Char)
    (letters digits : Nat) :
    Option (Int × Following) :=
  if character = '🏴' then
    if digits = 3 ∨ 3 ≤ letters then
      some (0, .pictograph)
    else
      none
  else if inRanges tagLetterRanges character.toNat then
    if digits = 0 ∧ letters < 6 then
      some (0, .tagLetters (letters + 1))
    else
      none
  else if inRanges tagDigitRanges character.toNat then
    if digits < 3 ∧ letters < 5 then
      some (0, .tagDigits (digits + 1))
    else
      none
  else
    none

/-- How a character joins what follows it: its columns, and what the two offer
together. -/
def join?
    (character : Char) :
    Following →
      Option (Int × Following)
  | .plain =>
      none
  | .lineFeed =>
      none
  | .skinTone =>
      if takesSkinTone character then
        some (0, .pictograph)
      else if character = joiner then
        some (0, .tied)
      else
        none
  | .indicator =>
      if isRegionalIndicator character then
        some (1, .indicators)
      else
        none
  | .indicators =>
      if isRegionalIndicator character then
        some (1, .indicators)
      else if character = joiner then
        some (0, .tied)
      else
        none
  | .pictograph =>
      if character = joiner then
        some (0, .tied)
      else
        none
  | .tied =>
      joinTied? character
  | .tiedKeycap =>
      none
  | .tiedIndicator =>
      if isRegionalIndicator character then
        some (-1, .tiedEven)
      else
        none
  | .tiedEven =>
      if isRegionalIndicator character then
        some (3, .tiedOdd)
      else if character = joiner then
        some (0, .tied)
      else
        none
  | .tiedOdd =>
      if isRegionalIndicator character then
        some (-1, .tiedEven)
      else if character = joiner then
        some (0, .tied)
      else
        none
  | .tagEnd =>
      joinTag? character 0 0
  | .tagLetters count =>
      joinTag? character count 0
  | .tagDigits count =>
      joinTag? character 0 count
  | .vowelE =>
      match character with
      | '𖵣' => some (0, .plain)
      | '𖵧' => some (0, .vowelAi)
      | '𖵨' => some (1, .vowelE)
      | '𖵩' => some (0, .plain)
      | _ => none
  | .vowelAi =>
      if character = '𖵣' then
        some (0, .plain)
      else
        none
  | .alef =>
      if inRanges lamRanges character.toNat then
        some (0, .plain)
      else if isZeroWidth character &&
          !inRanges lamBreakerRanges character.toNat then
        some (0, .alef)
      else
        none
  | .ligature ending joined =>
      if character = joiner then
        some (0, .ligature ending true)
      else if inRanges ligatureFillerRanges character.toNat then
        some (0, .ligature ending joined)
      else
        completeLigature? character ending joined

/-- How the selector behind a character draws it: its columns, and what it then
offers. -/
def drawSelected?
    (character : Char)
    (next : Lookahead) :
    Option (Int × Following) :=
  match next.selector with
  | none =>
      none
  | some .emoji =>
      if isEmoji character then
        some (if next.following.isTied then 0 else 2, .pictograph)
      else
        none
  | some .text =>
      if isPlainEmoji character then
        some (1, .plain)
      else
        none
  | some .wide =>
      if inRanges quoteRanges character.toNat then
        some (2, .plain)
      else
        none

/-- What is left of what follows when the selector in front of it draws
nothing. -/
def Lookahead.unselected
    (next : Lookahead) :
    Following :=
  if next.selector.isNone || next.following.survivesSelector then
    next.following
  else
    .plain

/-- The columns of a control or Latin character, and what it offers. -/
def placeLatin
    (character : Char)
    (following : Following) :
    Int × Following :=
  if character = '\n' then
    (1, .lineFeed)
  else if character = '\r' ∧ following = .lineFeed then
    (0, .plain)
  else
    (1, .plain)

/-- The columns of a character that no selector draws, and what it offers. -/
def placeUnselected
    (character : Char)
    (following : Following) :
    Int × Lookahead :=
  if character.toNat ≤ 0xa0 then
    let (columns, offered) := placeLatin character following
    (columns, ⟨none, offered⟩)
  else
    match selector? character with
    | some selector =>
        (0, ⟨some selector, following.behind selector⟩)
    | none =>
        match join? character following with
        | some (columns, offered) =>
            (columns, ⟨none, offered⟩)
        | none =>
            (charWidth character, ⟨none, offer character⟩)

/-- The columns of a character before what follows it, and what the two offer
together. -/
def place
    (character : Char)
    (next : Lookahead) :
    Int × Lookahead :=
  match drawSelected? character next with
  | some (columns, offered) =>
      (columns, ⟨none, offered⟩)
  | none =>
      placeUnselected character next.unselected

/-- Put a character in front of a measured text. -/
def measureCons
    (character : Char)
    (measured : Int × Lookahead) :
    Int × Lookahead :=
  let (columns, next) := place character measured.2
  (measured.1 + columns, next)

/-- The number of columns that a text takes. -/
def displayWidth
    (text : List Char) :
    Nat :=
  (text.foldr measureCons (0, {})).1.toNat

end ApiIndex.Text

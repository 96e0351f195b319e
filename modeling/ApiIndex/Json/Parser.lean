import ApiIndex.Json.Value
import ApiIndex.Text.Numeric

namespace ApiIndex.Json

open ApiIndex.Text (isAsciiDigit)

/-!
# Reading JSON

The grammar is the strict one: one value with blanks around it, no comments, no
trailing commas, no leading zeros and no raw controls in strings.  Every reader
takes the text from its first character on and gives back the value with the
rest of the text.

Values nest, so the readers of values, items and members take a bound on the
number of steps.  A step towards an item or member is followed by a character,
and twice the length of the text bounds them all.
-/

/-- Whether a character may stand between two tokens. -/
def isGap
    (character : Char) :
    Bool :=
  character == ' ' || character == '\t' ||
    character == '\n' || character == '\r'

/-- The text behind its leading blanks. -/
def skipGap
    (text : List Char) :
    List Char :=
  text.dropWhile isGap

/-- The value of a hexadecimal digit in either case. -/
def hexValue?
    (character : Char) :
    Option Nat :=
  if '0' ≤ character ∧ character ≤ '9' then
    some (character.toNat - '0'.toNat)
  else if 'a' ≤ character ∧ character ≤ 'f' then
    some (character.toNat - 'a'.toNat + 10)
  else if 'A' ≤ character ∧ character ≤ 'F' then
    some (character.toNat - 'A'.toNat + 10)
  else
    none

/-- The value of four hexadecimal digits. -/
def hexUnit?
    (first second third fourth : Char) :
    Option Nat := do
  let first ← hexValue? first
  let second ← hexValue? second
  let third ← hexValue? third
  let fourth ← hexValue? fourth
  return ((first * 16 + second) * 16 + third) * 16 + fourth

/-- A piece of a string literal: a character, or one half of a surrogate
pair. -/
inductive Piece where
  | character (value : Char)
  | highHalf (unit : Nat)
  | lowHalf (unit : Nat)
  deriving Repr, DecidableEq

/-- The piece that a four digit escape denotes. -/
def Piece.ofUnit
    (unit : Nat) :
    Piece :=
  if 0xd800 ≤ unit ∧ unit < 0xdc00 then
    .highHalf unit
  else if 0xdc00 ≤ unit ∧ unit < 0xe000 then
    .lowHalf unit
  else
    .character (Char.ofNat unit)

/-- The character that a one letter escape denotes. -/
def letterEscape? : Char → Option Char
  | '"' => some '"'
  | '\\' => some '\\'
  | '/' => some '/'
  | 'b' => some '\x08'
  | 'f' => some '\x0c'
  | 'n' => some '\n'
  | 'r' => some '\r'
  | 't' => some '\t'
  | _ => none

/-- The pieces of a string literal behind its opening quotation mark, and the
rest behind the closing one. -/
def readPieces? :
    List Char →
      Option (List Piece × List Char)
  | '"' :: rest =>
      some ([], rest)
  | '\\' :: 'u' :: first :: second :: third :: fourth :: rest =>
      match hexUnit? first second third fourth, readPieces? rest with
      | some unit, some (pieces, remaining) =>
          some (.ofUnit unit :: pieces, remaining)
      | _, _ =>
          none
  | '\\' :: letter :: rest =>
      match letterEscape? letter, readPieces? rest with
      | some character, some (pieces, remaining) =>
          some (.character character :: pieces, remaining)
      | _, _ =>
          none
  | character :: rest =>
      if character = '\\' ∨ character.toNat < 0x20 then
        none
      else
        match readPieces? rest with
        | some (pieces, remaining) =>
            some (.character character :: pieces, remaining)
        | none =>
            none
  | [] =>
      none

/-- The text that pieces denote: the two halves of a pair make one character,
and a half alone denotes nothing. -/
def joinPieces? :
    List Piece →
      Option (List Char)
  | [] =>
      some []
  | .character value :: rest =>
      (joinPieces? rest).map (value :: ·)
  | .highHalf high :: .lowHalf low :: rest =>
      (joinPieces? rest).map
        (Char.ofNat (0x10000 + (high - 0xd800) * 0x400 + (low - 0xdc00)) :: ·)
  | _ :: _ =>
      none

/-- A string literal behind its opening quotation mark. -/
def readString?
    (text : List Char) :
    Option (Option String × List Char) :=
  (readPieces? text).map fun (pieces, rest) =>
    ((joinPieces? pieces).map String.ofList, rest)

/-- The digits at the start of a text. -/
def readDigits
    (text : List Char) :
    List Char × List Char :=
  (text.takeWhile isAsciiDigit, text.dropWhile isAsciiDigit)

/-- The whole part of a number: zero, or digits that do not start with zero. -/
def readWhole? :
    List Char →
      Option (List Char × List Char)
  | '0' :: rest =>
      some (['0'], rest)
  | text =>
      match readDigits text with
      | ([], _) =>
          none
      | found =>
          some found

/-- The fraction of a number, which may be missing. -/
def readFraction? :
    List Char →
      Option (List Char × List Char)
  | '.' :: text =>
      match readDigits text with
      | ([], _) =>
          none
      | (digits, rest) =>
          some ('.' :: digits, rest)
  | text =>
      some ([], text)

/-- The sign of an exponent, which may be missing. -/
def readSign : List Char → List Char × List Char
  | '+' :: rest =>
      (['+'], rest)
  | '-' :: rest =>
      (['-'], rest)
  | text =>
      ([], text)

/-- The exponent of a number, which may be missing. -/
def readExponent?
    (text : List Char) :
    Option (List Char × List Char) :=
  match text with
  | mark :: afterMark =>
      if mark = 'e' ∨ mark = 'E' then
        let (sign, unsigned) := readSign afterMark
        match readDigits unsigned with
        | ([], _) =>
            none
        | (digits, rest) =>
            some (mark :: sign ++ digits, rest)
      else
        some ([], text)
  | [] =>
      some ([], [])

/-- The value of decimal digits. -/
def decimalValue
    (digits : List Char) :
    Nat :=
  digits.foldl
    (fun value digit => value * 10 + (digit.toNat - '0'.toNat)) 0

/-- A number without a sign. -/
def readUnsigned?
    (text : List Char) :
    Option (Json × List Char) := do
  let (whole, afterWhole) ← readWhole? text
  let (fraction, afterFraction) ← readFraction? afterWhole
  let (exponent, rest) ← readExponent? afterFraction
  if fraction = [] ∧ exponent = [] then
    return (.natural (decimalValue whole), rest)
  else
    return (.number (String.ofList (whole ++ fraction ++ exponent)), rest)

/-- The literal that a number was read from. -/
def literalOf : Json → String
  | .natural value =>
      value.repr
  | .number literal =>
      literal
  | _ =>
      ""

/-- A number. -/
def readNumber? :
    List Char →
      Option (Json × List Char)
  | '-' :: text =>
      (readUnsigned? text).map fun (value, rest) =>
        (.number ("-" ++ literalOf value), rest)
  | text =>
      readUnsigned? text

mutual

/-- A value, within a bound on the number of steps. -/
def readValue? :
    Nat →
      List Char →
      Option (Json × List Char)
  | 0, _ =>
      none
  | steps + 1, text =>
      match text with
      | 'n' :: 'u' :: 'l' :: 'l' :: rest =>
          some (.null, rest)
      | 't' :: 'r' :: 'u' :: 'e' :: rest =>
          some (.bool true, rest)
      | 'f' :: 'a' :: 'l' :: 's' :: 'e' :: rest =>
          some (.bool false, rest)
      | '"' :: rest =>
          (readString? rest).map fun (value, remaining) =>
            (.string value, remaining)
      | '[' :: inside =>
          match skipGap inside with
          | ']' :: rest =>
              some (.array [], rest)
          | items =>
              (readItems? steps items).map fun (found, rest) =>
                (.array found, rest)
      | '\x7b' :: inside =>
          match skipGap inside with
          | '\x7d' :: rest =>
              some (.object [], rest)
          | members =>
              (readMembers? steps members).map fun (found, rest) =>
                (.object found, rest)
      | other =>
          readNumber? other

/-- The items of an array up to its closing bracket. -/
def readItems? :
    Nat →
      List Char →
      Option (List Json × List Char)
  | 0, _ =>
      none
  | steps + 1, text =>
      match readValue? steps text with
      | none =>
          none
      | some (item, afterItem) =>
          match skipGap afterItem with
          | ',' :: more =>
              (readItems? steps (skipGap more)).map fun (items, rest) =>
                (item :: items, rest)
          | ']' :: rest =>
              some ([item], rest)
          | _ =>
              none

/-- The members of an object up to its closing brace. -/
def readMembers? :
    Nat →
      List Char →
      Option (List (Option String × Json) × List Char)
  | 0, _ =>
      none
  | steps + 1, text =>
      match text with
      | '"' :: inKey =>
          match readString? inKey with
          | none =>
              none
          | some (key, afterKey) =>
              match skipGap afterKey with
              | ':' :: beforeValue =>
                  match readValue? steps (skipGap beforeValue) with
                  | none =>
                      none
                  | some (value, afterValue) =>
                      match skipGap afterValue with
                      | ',' :: more =>
                          (readMembers? steps (skipGap more)).map
                            fun (members, rest) =>
                              ((key, value) :: members, rest)
                      | '\x7d' :: rest =>
                          some ([(key, value)], rest)
                      | _ =>
                          none
              | _ =>
                  none
      | _ =>
          none

end

/-- The one value of a text. -/
def parse?
    (text : String) :
    Option Json :=
  let characters := text.toList
  match readValue? (2 * characters.length + 1) (skipGap characters) with
  | some (value, rest) =>
      if skipGap rest = [] then
        some value
      else
        none
  | none =>
      none

end ApiIndex.Json

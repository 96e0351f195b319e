import ApiIndex.Text.Printable

namespace ApiIndex.Text

/-!
# Quoted characters and texts

Messages show a character between single quotes and a name between double
quotes.  The surrounding quote and the backslash are escaped by a backslash,
four controls have a letter of their own, and every other character without a
visible shape is written as its code point in hexadecimal digits.
-/

/-- A character as its code point between braces. -/
def codeEscape
    (character : Char) :
    List Char :=
  ['\\', 'u', '\x7b'] ++ Nat.toDigits 16 character.toNat ++ ['\x7d']

/-- One character of a text that stands between two `quote` characters. -/
def escapeChar
    (quote : Char)
    (character : Char) :
    List Char :=
  if character = '\x00' then
    ['\\', '0']
  else if character = '\t' then
    ['\\', 't']
  else if character = '\r' then
    ['\\', 'r']
  else if character = '\n' then
    ['\\', 'n']
  else if character = '\\' ∨ character = quote then
    ['\\', character]
  else if isPrintable character then
    [character]
  else
    codeEscape character

/-- A character between single quotes. -/
def quotedChar
    (character : Char) :
    String :=
  String.ofList (['\''] ++ escapeChar '\'' character ++ ['\''])

/-- A text between double quotes. -/
def quotedText
    (text : String) :
    String :=
  String.ofList (['"'] ++ text.toList.flatMap (escapeChar '"') ++ ['"'])

end ApiIndex.Text

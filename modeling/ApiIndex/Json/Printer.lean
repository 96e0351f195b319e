import ApiIndex.Json.Value

namespace ApiIndex.Json

/-!
# Writing JSON

Two layouts of one value: the compact one has no blanks at all, the indented
one puts every item and member on a line of its own, two columns further in
than its container.  Strings escape the quotation mark, the backslash and the
controls below the space; every other character stands for itself.
-/

/-- One hexadecimal digit. -/
def hexDigit
    (value : Nat) :
    Char :=
  if value < 10 then
    Char.ofNat ('0'.toNat + value)
  else
    Char.ofNat ('a'.toNat + (value - 10))

/-- One character inside a string literal. -/
def escape
    (character : Char) :
    List Char :=
  if character = '"' then
    ['\\', '"']
  else if character = '\\' then
    ['\\', '\\']
  else if character = '\x08' then
    ['\\', 'b']
  else if character = '\x0c' then
    ['\\', 'f']
  else if character = '\n' then
    ['\\', 'n']
  else if character = '\r' then
    ['\\', 'r']
  else if character = '\t' then
    ['\\', 't']
  else if character.toNat < 0x20 then
    ['\\', 'u', '0', '0',
      hexDigit (character.toNat / 16), hexDigit (character.toNat % 16)]
  else
    [character]

/-- A string literal.  Half a surrogate pair stands for a literal that denotes
no text. -/
def stringLiteral : Option String → List Char
  | some value =>
      '"' :: value.toList.flatMap escape ++ ['"']
  | none =>
      "\"\\ud800\"".toList

mutual

/-- A value without blanks. -/
def compact : Json → List Char
  | .null =>
      "null".toList
  | .bool true =>
      "true".toList
  | .bool false =>
      "false".toList
  | .natural value =>
      Nat.toDigits 10 value
  | .number literal =>
      literal.toList
  | .string value =>
      stringLiteral value
  | .array items =>
      '[' :: compactItems items ++ [']']
  | .object members =>
      '\x7b' :: compactMembers members ++ ['\x7d']

/-- Items separated by commas. -/
def compactItems : List Json → List Char
  | [] =>
      []
  | [item] =>
      compact item
  | item :: next :: rest =>
      compact item ++ ',' :: compactItems (next :: rest)

/-- A key and its value. -/
def compactMember : Option String × Json → List Char
  | (key, value) =>
      stringLiteral key ++ ':' :: compact value

/-- Members separated by commas. -/
def compactMembers : List (Option String × Json) → List Char
  | [] =>
      []
  | [member] =>
      compactMember member
  | member :: next :: rest =>
      compactMember member ++ ',' :: compactMembers (next :: rest)

end

/-- A line feed and the indent of a nesting level. -/
def lineBreak
    (level : Nat) :
    List Char :=
  '\n' :: List.replicate (2 * level) ' '

mutual

/-- A value at a nesting level, with its items on lines of their own. -/
def indented
    (level : Nat) :
    Json →
      List Char
  | .null =>
      "null".toList
  | .bool true =>
      "true".toList
  | .bool false =>
      "false".toList
  | .natural value =>
      Nat.toDigits 10 value
  | .number literal =>
      literal.toList
  | .string value =>
      stringLiteral value
  | .array [] =>
      ['[', ']']
  | .array (item :: rest) =>
      '[' :: indentedItems (level + 1) (item :: rest) ++
        lineBreak level ++ [']']
  | .object [] =>
      ['\x7b', '\x7d']
  | .object (member :: rest) =>
      '\x7b' :: indentedMembers (level + 1) (member :: rest) ++
        lineBreak level ++ ['\x7d']

/-- Items, each on a line of its own. -/
def indentedItems
    (level : Nat) :
    List Json →
      List Char
  | [] =>
      []
  | [item] =>
      lineBreak level ++ indented level item
  | item :: next :: rest =>
      lineBreak level ++ indented level item ++
        ',' :: indentedItems level (next :: rest)

/-- A key and its value. -/
def indentedMember
    (level : Nat) :
    Option String × Json →
      List Char
  | (key, value) =>
      stringLiteral key ++ ':' :: ' ' :: indented level value

/-- Members, each on a line of its own. -/
def indentedMembers
    (level : Nat) :
    List (Option String × Json) →
      List Char
  | [] =>
      []
  | [member] =>
      lineBreak level ++ indentedMember level member
  | member :: next :: rest =>
      lineBreak level ++ indentedMember level member ++
        ',' :: indentedMembers level (next :: rest)

end

/-- The compact layout of a value. -/
def render
    (value : Json) :
    String :=
  String.ofList value.compact

/-- The indented layout of a value. -/
def pretty
    (value : Json) :
    String :=
  String.ofList (value.indented 0)

end ApiIndex.Json

import ApiIndex.Json.Parser

namespace ApiIndex.Json

open ApiIndex.Text (isAsciiDigit)

/-!
# The JSON grammar

Which texts write a value is said here without a reader: which digits make a
number, how the characters between two quotation marks spell a text, and how
items and members stand between brackets, commas and blanks.  One value has many
texts; a text writes one value only, which follows from reading it.
-/

/-- Blanks between two tokens. -/
def IsBlank
    (text : List Char) :
    Prop :=
  ∀ character ∈ text, isGap character = true

/-- One or more decimal digits. -/
structure IsDigits
    (digits : List Char) : Prop where
  nonempty : digits ≠ []
  decimal : ∀ digit ∈ digits, isAsciiDigit digit = true

/-- The digits of a whole number, which start with zero only for zero. -/
structure IsWhole
    (digits : List Char) : Prop extends IsDigits digits where
  leading : digits.head? = some '0' → digits = ['0']

/-- The fraction of a number, which may be missing. -/
inductive IsFraction :
    List Char → Prop where
  | missing :
      IsFraction []
  | point
      {digits : List Char}
      (isDigits : IsDigits digits) :
      IsFraction ('.' :: digits)

/-- The exponent of a number, which may be missing. -/
inductive IsExponent :
    List Char → Prop where
  | missing :
      IsExponent []
  | marked
      {mark : Char}
      {sign digits : List Char}
      (isMark : mark = 'e' ∨ mark = 'E')
      (isSign : sign = [] ∨ sign = ['+'] ∨ sign = ['-'])
      (isDigits : IsDigits digits) :
      IsExponent (mark :: sign ++ digits)

/-- A number with a sign, a fraction or an exponent. -/
inductive IsNumber :
    List Char → Prop where
  | negative
      {whole fraction exponent : List Char}
      (isWhole : IsWhole whole)
      (isFraction : IsFraction fraction)
      (isExponent : IsExponent exponent) :
      IsNumber ('-' :: (whole ++ fraction ++ exponent))
  | unsigned
      {whole fraction exponent : List Char}
      (isWhole : IsWhole whole)
      (isFraction : IsFraction fraction)
      (isExponent : IsExponent exponent)
      (notNatural : ¬ (fraction = [] ∧ exponent = [])) :
      IsNumber (whole ++ fraction ++ exponent)

/-- The characters between two quotation marks spell pieces: a character stands
for itself or is escaped by a letter or by four hexadecimal digits. -/
inductive Spells :
    List Piece → List Char → Prop where
  | nil :
      Spells [] []
  | plain
      {character : Char}
      {pieces : List Piece}
      {text : List Char}
      (noQuote : character ≠ '"')
      (noEscape : character ≠ '\\')
      (noControl : 0x20 ≤ character.toNat)
      (rest : Spells pieces text) :
      Spells (.character character :: pieces) (character :: text)
  | letter
      {letter character : Char}
      {pieces : List Piece}
      {text : List Char}
      (escapes : letterEscape? letter = some character)
      (rest : Spells pieces text) :
      Spells (.character character :: pieces) ('\\' :: letter :: text)
  | unit
      {first second third fourth : Char}
      {unit : Nat}
      {pieces : List Piece}
      {text : List Char}
      (digits : hexUnit? first second third fourth = some unit)
      (rest : Spells pieces text) :
      Spells (.ofUnit unit :: pieces)
        ('\\' :: 'u' :: first :: second :: third :: fourth :: text)

/-- A string literal writes the text that its pieces denote. -/
inductive WritesString :
    Option String → List Char → Prop where
  | quoted
      {pieces : List Piece}
      {inside : List Char}
      (spells : Spells pieces inside) :
      WritesString ((joinPieces? pieces).map String.ofList)
        ('"' :: inside ++ ['"'])

/-- A text writes one or more things with commas between them. -/
inductive Separated
    (WritesOne : α → List Char → Prop) :
    List α → List Char → Prop where
  | last
      {item : α}
      {text : List Char}
      (writes : WritesOne item text) :
      Separated WritesOne [item] text
  | more
      {item : α}
      {items : List α}
      {text before after others : List Char}
      (writes : WritesOne item text)
      (blankBefore : IsBlank before)
      (blankAfter : IsBlank after)
      (rest : Separated WritesOne items others) :
      Separated WritesOne (item :: items)
        (text ++ before ++ ',' :: after ++ others)

mutual

/-- A text writes a value, from the first character of the value to its last
one. -/
inductive WritesValue :
    Json → List Char → Prop where
  | null :
      WritesValue .null "null".toList
  | yes :
      WritesValue (.bool true) "true".toList
  | no :
      WritesValue (.bool false) "false".toList
  | natural
      {digits : List Char}
      (isWhole : IsWhole digits) :
      WritesValue (.natural (decimalValue digits)) digits
  | number
      {literal : List Char}
      (isNumber : IsNumber literal) :
      WritesValue (.number (String.ofList literal)) literal
  | string
      {value : Option String}
      {text : List Char}
      (writes : WritesString value text) :
      WritesValue (.string value) text
  | emptyArray
      {blank : List Char}
      (isBlank : IsBlank blank) :
      WritesValue (.array []) ('[' :: blank ++ [']'])
  | array
      {items : List Json}
      {before text after : List Char}
      (blankBefore : IsBlank before)
      (writes : Separated WritesValue items text)
      (blankAfter : IsBlank after) :
      WritesValue (.array items) ('[' :: before ++ text ++ after ++ [']'])
  | emptyObject
      {blank : List Char}
      (isBlank : IsBlank blank) :
      WritesValue (.object []) ('\x7b' :: blank ++ ['\x7d'])
  | object
      {members : List (Option String × Json)}
      {before text after : List Char}
      (blankBefore : IsBlank before)
      (writes : Separated WritesMember members text)
      (blankAfter : IsBlank after) :
      WritesValue (.object members)
        ('\x7b' :: before ++ text ++ after ++ ['\x7d'])

/-- A text writes a key, a colon and a value. -/
inductive WritesMember :
    Option String × Json → List Char → Prop where
  | pair
      {key : Option String}
      {value : Json}
      {keyText before after text : List Char}
      (writesKey : WritesString key keyText)
      (blankBefore : IsBlank before)
      (blankAfter : IsBlank after)
      (writes : WritesValue value text) :
      WritesMember (key, value)
        (keyText ++ before ++ ':' :: after ++ text)

end

/-- A text that holds one value, with blanks around it. -/
inductive Writes :
    Json → String → Prop where
  | between
      {value : Json}
      {before text after : List Char}
      (blankBefore : IsBlank before)
      (writes : WritesValue value text)
      (blankAfter : IsBlank after) :
      Writes value (String.ofList (before ++ text ++ after))

/-- A value that JSON can express: the literals in it are numbers. -/
inductive Expressible :
    Json → Prop where
  | null :
      Expressible .null
  | bool
      (value : Bool) :
      Expressible (.bool value)
  | natural
      (value : Nat) :
      Expressible (.natural value)
  | number
      {literal : String}
      (isNumber : IsNumber literal.toList) :
      Expressible (.number literal)
  | string
      (value : Option String) :
      Expressible (.string value)
  | array
      {items : List Json}
      (each : ∀ item ∈ items, Expressible item) :
      Expressible (.array items)
  | object
      {members : List (Option String × Json)}
      (each : ∀ member ∈ members, Expressible member.2) :
      Expressible (.object members)

end ApiIndex.Json

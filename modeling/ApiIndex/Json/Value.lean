namespace ApiIndex

/-!
# JSON values

A JSON value as it is written.  A natural number stands for itself; every other
number is kept as its literal.  A string literal may hold an escape for one half
of a surrogate pair without the other half.  Such a literal is well formed but
denotes no text, which matters only where the text is needed.
-/

/-- A JSON value. -/
inductive Json where
  | null
  | bool (value : Bool)
  | natural (value : Nat)
  /-- A number with a sign, a fraction or an exponent. -/
  | number (literal : String)
  /-- A string literal with the text that it denotes, if it denotes one. -/
  | string (text : Option String)
  | array (items : List Json)
  | object (members : List (Option String × Json))
  deriving Inhabited

namespace Json

/-- A string literal that denotes a text. -/
def text
    (value : String) :
    Json :=
  .string (some value)

/-- An object whose keys are texts. -/
def ofFields
    (fields : List (String × Json)) :
    Json :=
  .object (fields.map fun (key, value) => (some key, value))

/-- `null` for an absent value. -/
def ofOption
    (encode : α → Json) :
    Option α →
      Json
  | none =>
      .null
  | some value =>
      encode value

/-- The text of a string literal. -/
def text? : Json → Option String
  | .string value =>
      value
  | _ =>
      none

/-- The value of a truth value literal. -/
def bool? : Json → Option Bool
  | .bool value =>
      some value
  | _ =>
      none

/-- The items of an array. -/
def items? : Json → Option (List Json)
  | .array items =>
      some items
  | _ =>
      none

/-- The least natural number that does not fit into 64 bits. -/
def wordLimit : Nat :=
  0x10000000000000000

/-- A natural number that fits into 64 bits. -/
def word? : Json → Option Nat
  | .natural value =>
      if value < wordLimit then
        some value
      else
        none
  | _ =>
      none

/-- The texts of an array of string literals. -/
def texts?
    (value : Json) :
    Option (List String) :=
  value.items?.bind fun items => items.mapM text?

/-- The value of the first member with a key. -/
def member?
    (key : String) :
    Json →
      Option Json
  | .object members =>
      (members.find? (·.1 == some key)).map (·.2)
  | _ =>
      none

end Json

end ApiIndex

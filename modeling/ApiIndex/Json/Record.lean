import ApiIndex.Json.Value

namespace ApiIndex.Json

/-!
# Records and names in JSON

A record with a fixed list of fields is written as an object or, without the
keys, as an array of the values in field order.  In an object the fields may
come in any order and other members are passed over, but no field comes twice
and every key denotes a text.  In an array nothing follows the last field.

A name out of a fixed set is written as a string or as an object with that name
as its only key and `null` as its value.
-/

/-- The values of a record's fields, in field order. -/
structure Record where
  /-- Whether the record was written with keys. -/
  keyed : Bool
  /-- The value of each field that was written. -/
  slots : List (Option Json)

/-- The value of a field among the members of an object: `none` if the field
comes twice, `some none` if it is missing. -/
def slot?
    (members : List (Option String × Json))
    (field : String) :
    Option (Option Json) :=
  match members.filter (·.1 == some field) with
  | [] =>
      some none
  | [(_, value)] =>
      some (some value)
  | _ :: _ :: _ =>
      none

/-- Read the fields of a record. -/
def record?
    (fields : List String) :
    Json →
      Option Record
  | .object members =>
      if members.all (·.1.isSome) then
        (fields.mapM (slot? members)).map fun slots => ⟨true, slots⟩
      else
        none
  | .array items =>
      if items.length ≤ fields.length then
        some ⟨false,
          items.map some ++
            List.replicate (fields.length - items.length) none⟩
      else
        none
  | _ =>
      none

/-- A field that must be written. -/
def required
    (decode : Json → Option α)
    (slot : Option Json) :
    Option α :=
  slot.bind decode

/-- A field whose value may be `null`.  With keys it may also be left out. -/
def nullable
    (keyed : Bool)
    (decode : Json → Option α) :
    Option Json →
      Option (Option α)
  | none =>
      if keyed then
        some none
      else
        none
  | some .null =>
      some none
  | some value =>
      (decode value).map some

/-- A field that has a value of its own when it is left out. -/
def withDefault
    (fallback : α)
    (decode : Json → Option α) :
    Option Json →
      Option α
  | none =>
      some fallback
  | some value =>
      decode value

/-- The name that a value writes. -/
def name? : Json → Option String
  | .string value =>
      value
  | .object [(key, .null)] =>
      key
  | _ =>
      none

end ApiIndex.Json

import RestQuery.Decimal.Double

/-!
# JSON values

A value keeps integers apart from other numbers, since an integer is exact and a double is not.
The fields of an object are a list, so that a record keeps the order in which its fields are
declared. An object read from a response instead has its keys in ascending order, each once; it is
built with `Json.insertField`.
-/

namespace RestQuery

/-- A JSON value. -/
inductive Json where
  | null
  | bool (value : Bool)
  | int (value : Int)
  | float (value : Double)
  | text (value : String)
  | list (items : List Json)
  | object (fields : List (String × Json))
deriving Inhabited

namespace Json

/-- Puts a field into its place among keys in ascending order; an equal key is replaced. -/
def insertField (key : String) (value : Json) : List (String × Json) → List (String × Json)
  | [] => [(key, value)]
  | (other, present) :: rest =>
      if key = other then (key, value) :: rest
      else if key < other then (key, value) :: (other, present) :: rest
      else (other, present) :: insertField key value rest

/-- The value of a field of an object. -/
def field? (key : String) : Json → Option Json
  | .object fields => fields.lookup key
  | _ => none

/-- An optional value, absent as `null`. -/
def ofOption {Value : Type} (encode : Value → Json) : Option Value → Json
  | none => .null
  | some value => encode value

/-- A list of values. -/
def ofList {Value : Type} (encode : Value → Json) (items : List Value) : Json :=
  .list (items.map encode)

/-- A list of texts. -/
def ofTexts (texts : List String) : Json :=
  ofList .text texts

/-- An unsigned 64-bit number. -/
def ofUnsigned (number : UInt64) : Json :=
  .int number.toNat

end Json

end RestQuery

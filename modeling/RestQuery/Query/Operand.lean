import RestQuery.Decimal.Integer
import RestQuery.Decimal.Layout
import RestQuery.Text.Percent

/-!
# Operands

A scalar is one thing that a field is compared with. A field filter carries an operand: a single
scalar, the two bounds of a range, or a list. Query strings only yield texts; numbers and truth
values come from callers of the builder and from JSON.
-/

namespace RestQuery

/-- One thing that a field is compared with. -/
inductive Scalar where
  | bool (value : Bool)
  | int (value : Int64)
  | float (value : Double)
  | text (value : String)
deriving DecidableEq, Repr, Inhabited

namespace Scalar

/-- An unsigned number; one that no signed 64-bit integer holds becomes a double. -/
def ofUnsigned (number : UInt64) : Scalar :=
  if number ≤ Int64.maxValue.toUInt64 then .int (Int64.ofNat number.toNat)
  else .float (Double.ofNat number.toNat)

/-- The text of a scalar, if it is one. -/
def text? : Scalar → Option String
  | text value => some value
  | _ => none

/-- What a scalar reads as in a query string. -/
def display : Scalar → String
  | bool value => if value then "true" else "false"
  | int value => intText value.toInt
  | float value => String.ofList value.queryChars
  | text value => value

/-- A scalar as it is written in a query string. -/
def encode (scalar : Scalar) : String :=
  Percent.encode scalar.display

end Scalar

/-- What a field filter compares its field with. -/
inductive Operand where
  | single (scalar : Scalar)
  | pair (low high : Scalar)
  | list (items : List Scalar)
deriving DecidableEq, Repr, Inhabited

namespace Operand

/-- The scalars in order. -/
def scalars : Operand → List Scalar
  | single scalar => [scalar]
  | pair low high => [low, high]
  | list items => items

/-- The number of scalars. -/
def arity (operand : Operand) : Nat :=
  operand.scalars.length

/-- The scalar of a single operand. -/
def single? : Operand → Option Scalar
  | single scalar => some scalar
  | _ => none

@[simp]
theorem scalars_list (items : List Scalar) : (Operand.list items).scalars = items := rfl

end Operand

end RestQuery

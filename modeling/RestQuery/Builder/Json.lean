import RestQuery.Builder
import RestQuery.Query.Json

/-!
# Builders as JSON

The state of a builder as a record. A group is written as its conditions alone, whatever else its
builder holds.
-/

namespace RestQuery

def Junction.toJson (junction : Junction) : Json :=
  .text junction.name

def SortOrder.toJson (order : SortOrder) : Json :=
  .int order.sign

def Aggregate.toJson (aggregate : Aggregate) : Json :=
  .object [("function", .text aggregate.function), ("columns", .ofTexts aggregate.columns)]

/-- An ordering as a pair of column and sign. -/
def orderToJson (order : String × SortOrder) : Json :=
  .list [.text order.1, order.2.toJson]

mutual

def Condition.toJson : Condition → Json
  | .basic column operator value junction =>
      .object [("type", .text "basic"), ("column", .text column), ("operator", .text operator),
        ("value", value.toJson), ("boolean", junction.toJson)]
  | .oneOf column values junction =>
      .object [("type", .text "in"), ("column", .text column),
        ("values", .ofList Scalar.toJson values), ("boolean", junction.toJson)]
  | .noneOf column values junction =>
      .object [("type", .text "not_in"), ("column", .text column),
        ("values", .ofList Scalar.toJson values), ("boolean", junction.toJson)]
  | .null column junction =>
      .object [("type", .text "null"), ("column", .text column), ("boolean", junction.toJson)]
  | .notNull column junction =>
      .object [("type", .text "not_null"), ("column", .text column), ("boolean", junction.toJson)]
  | .between column low high junction outside =>
      .object [("type", .text "between"), ("column", .text column),
        ("values", .list [low.toJson, high.toJson]), ("boolean", junction.toJson),
        ("not", .bool outside)]
  | .nested ⟨_, _, conditions, _, _, _, _, _, _, _, _, _⟩ junction =>
      .object [("type", .text "nested"), ("wheres", .list (conditionsToJson conditions)),
        ("boolean", junction.toJson)]

def conditionsToJson : List Condition → List Json
  | [] => []
  | condition :: rest => condition.toJson :: conditionsToJson rest

end

namespace Builder

def conditionsJson (builder : Builder) : Json :=
  .list (conditionsToJson builder.conditions)

def ordersJson (builder : Builder) : Json :=
  .ofList orderToJson builder.orders

/-- The whole state of a builder. -/
def toJson (builder : Builder) : Json :=
  .object [("from", .text builder.collection),
    ("columns", .ofOption Json.ofTexts builder.columns),
    ("wheres", builder.conditionsJson),
    ("groups", .ofTexts builder.groups),
    ("orders", builder.ordersJson),
    ("limit", .ofOption Json.ofUnsigned builder.limit),
    ("offset", .ofOption Json.ofUnsigned builder.offset),
    ("aggregate", .ofOption Aggregate.toJson builder.aggregate),
    ("distinct", .bool builder.distinct),
    ("timeout", .ofOption Json.ofUnsigned builder.timeout),
    ("hint", .ofOption Json.text builder.hint),
    ("paginating", .bool builder.paginating)]

end Builder

end RestQuery

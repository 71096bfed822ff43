import RestQuery.Query.FieldFilter
import RestQuery.Query.SortKey

/-!
# Query builders

A builder gathers what a request against a collection asks for. Conditions are kept in the order in
which they were added, each with the way it joins those before it. Orderings are a map in insertion
order: ordering a column again keeps its place and takes the new direction.
-/

namespace RestQuery

/-- How a condition joins those before it. -/
inductive Junction where
  | and
  | or
deriving DecidableEq, Repr, Inhabited

def Junction.name : Junction → String
  | .and => "and"
  | .or => "or"

/-- A call of an aggregate function over columns. -/
structure Aggregate where
  function : String
  columns : List String
deriving DecidableEq, Repr

mutual

/-- One recorded condition. -/
inductive Condition where
  /-- A comparison, with its operator as it was written. -/
  | basic (column operator : String) (value : Scalar) (junction : Junction)
  | oneOf (column : String) (values : List Scalar) (junction : Junction)
  | noneOf (column : String) (values : List Scalar) (junction : Junction)
  | null (column : String) (junction : Junction)
  | notNull (column : String) (junction : Junction)
  /-- A range with both bounds included, or what lies outside it. -/
  | between (column : String) (low high : Scalar) (junction : Junction) (outside : Bool)
  /-- A group, built by a builder of its own; query strings cannot carry it. -/
  | nested (group : Builder) (junction : Junction)

/-- What a request against a collection asks for. -/
structure Builder where
  collection : String
  columns : Option (List String)
  conditions : List Condition
  groups : List String
  orders : List (String × SortOrder)
  limit : Option UInt64
  offset : Option UInt64
  aggregate : Option Aggregate
  distinct : Bool
  timeout : Option UInt64
  hint : Option String
  paginating : Bool

end

namespace Condition

/-- How the condition joins those before it. -/
def junction : Condition → Junction
  | basic _ _ _ junction => junction
  | oneOf _ _ junction => junction
  | noneOf _ _ junction => junction
  | null _ junction => junction
  | notNull _ junction => junction
  | between _ _ _ junction _ => junction
  | nested _ junction => junction

/-- The column, which every condition but a group has. -/
def column? : Condition → Option String
  | basic column _ _ _ => some column
  | oneOf column _ _ => some column
  | noneOf column _ _ => some column
  | null column _ => some column
  | notNull column _ => some column
  | between column _ _ _ _ => some column
  | nested _ _ => none

/-- The condition is a group. -/
def isNested : Condition → Bool
  | nested _ _ => true
  | _ => false

end Condition

/-- Gives a column a direction: a column that is present keeps its place. -/
def putOrder (column : String) (order : SortOrder) :
    List (String × SortOrder) → List (String × SortOrder)
  | [] => [(column, order)]
  | (other, present) :: rest =>
      if other = column then (other, order) :: rest
      else (other, present) :: putOrder column order rest

namespace Builder

/-- A builder that asks for everything in a collection. -/
def new (collection : String) : Builder where
  collection := collection
  columns := none
  conditions := []
  groups := []
  orders := []
  limit := none
  offset := none
  aggregate := none
  distinct := false
  timeout := none
  hint := none
  paginating := false

instance : Inhabited Builder := ⟨new ""⟩

/-- A fresh builder against the same collection. -/
def newQuery (builder : Builder) : Builder :=
  new builder.collection

/-- Changes the collection. -/
def setCollection (collection : String) (builder : Builder) : Builder :=
  { builder with collection }

/-- Replaces the requested columns. -/
def select (columns : List String) (builder : Builder) : Builder :=
  { builder with columns := some columns }

/-- Adds to the requested columns. -/
def addSelect (columns : List String) (builder : Builder) : Builder :=
  { builder with columns := some (builder.columns.getD [] ++ columns) }

/-- Asks for distinct results. -/
def makeDistinct (builder : Builder) : Builder :=
  { builder with distinct := true }

/-- Asks for the distinct values of one column. -/
def distinctOn (column : String) (builder : Builder) : Builder :=
  { builder with distinct := true, columns := some [column] }

/-- Groups by further columns. -/
def groupBy (columns : List String) (builder : Builder) : Builder :=
  { builder with groups := builder.groups ++ columns }

/-- Adds a condition after the others. -/
def push (condition : Condition) (builder : Builder) : Builder :=
  { builder with conditions := builder.conditions ++ [condition] }

/-- Compares a column with a scalar. -/
def compare (junction : Junction) (column operator : String) (value : Scalar) (builder : Builder) :
    Builder :=
  builder.push (.basic column operator value junction)

/-- Requires a column to have one of some values. -/
def whereIn (junction : Junction) (column : String) (values : List Scalar) (builder : Builder) :
    Builder :=
  builder.push (.oneOf column values junction)

/-- Requires a column to have none of some values. -/
def whereNotIn (junction : Junction) (column : String) (values : List Scalar) (builder : Builder) :
    Builder :=
  builder.push (.noneOf column values junction)

/-- Requires a column to be null. -/
def whereNull (junction : Junction) (column : String) (builder : Builder) : Builder :=
  builder.push (.null column junction)

/-- Requires a column not to be null. -/
def whereNotNull (junction : Junction) (column : String) (builder : Builder) : Builder :=
  builder.push (.notNull column junction)

/-- Requires a column to lie between two bounds, or outside them. -/
def whereBetween (junction : Junction) (column : String) (low high : Scalar) (outside : Bool)
    (builder : Builder) : Builder :=
  builder.push (.between column low high junction outside)

/-- Adds a group that is built from a fresh builder against the same collection. -/
def whereNested (junction : Junction) (build : Builder → Builder) (builder : Builder) : Builder :=
  builder.push (.nested (build builder.newQuery) junction)

/-- The operator of a filter, complemented where the filter is negated and it is not a range. -/
def effectiveOperator (filter : FieldFilter) : Operator :=
  if filter.negated && !filter.operator.isRange then
    filter.operator.complement?.getD filter.operator
  else filter.operator

/--
The condition that a field filter stands for. A negated filter gives the operator's complement,
a negated range what lies outside it.
-/
def conditionOf (filter : FieldFilter) : Except QueryError Condition :=
  let operator := effectiveOperator filter
  match operator, filter.operand with
  | .between, .pair low high => .ok (.between filter.field low high .and filter.negated)
  | .oneOf, operand => .ok (.oneOf filter.field operand.scalars .and)
  | .noneOf, operand => .ok (.noneOf filter.field operand.scalars .and)
  | .between, operand => .error (.invalidArity operator .exactlyTwo operand.arity)
  | _, .single value => .ok (.basic filter.field operator.symbol value .and)
  | _, operand => .error (.invalidArity operator .exactlyOne operand.arity)

/-- Adds the condition that a field filter stands for. -/
def addFilter (filter : FieldFilter) (builder : Builder) : Except QueryError Builder :=
  (conditionOf filter).map builder.push

/-- The column to sort by; `natural` is the order of storage. -/
def orderColumn (column : String) : String :=
  if column = "natural" then "$natural" else column

/-- Orders by a column. -/
def orderBy (column : String) (order : SortOrder) (builder : Builder) : Builder :=
  { builder with orders := putOrder (orderColumn column) order builder.orders }

/-- Sets the greatest number of results. -/
def take (count : UInt64) (builder : Builder) : Builder :=
  { builder with limit := some count }

/-- Sets the number of results to skip. -/
def skip (count : UInt64) (builder : Builder) : Builder :=
  { builder with offset := some count }

/-- The greatest number of 64 bits. -/
def greatest : Nat := UInt64.size - 1

/-- The number of results before a page; it stops at the greatest number of 64 bits. -/
def pageStart (page perPage : UInt64) : UInt64 :=
  UInt64.ofNat (min ((page.toNat - 1) * perPage.toNat) greatest)

/-- Asks for one page. Pages are counted from one. -/
def forPage (page perPage : UInt64) (builder : Builder) : Builder :=
  { builder with
    paginating := true
    offset := some (pageStart page perPage)
    limit := some perPage }

/-- Sets the timeout in seconds. -/
def setTimeout (seconds : UInt64) (builder : Builder) : Builder :=
  { builder with timeout := some seconds }

/-- Sets the index hint. -/
def setHint (index : String) (builder : Builder) : Builder :=
  { builder with hint := some index }

/-- Calls an aggregate function over columns. -/
def setAggregate (function : String) (columns : List String) (builder : Builder) : Builder :=
  { builder with aggregate := some ⟨function, columns⟩ }

/-- Drops the aggregate together with the requested columns. -/
def clearAggregate (builder : Builder) : Builder :=
  { builder with aggregate := none, columns := none }

/-- Asks for the record with an id. -/
def find (id : Scalar) (builder : Builder) : Builder :=
  (builder.compare .and "id" "=" id).take 1

end Builder

end RestQuery

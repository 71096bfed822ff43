import RestQuery.Builder
import RestQuery.Json.Value
import RestQuery.Text.Split

/-!
# Compiling builders

A builder compiles to a path and a query string. The query string is the non-empty segments, joined
with `&`, in a fixed order: aggregate, columns, one for each condition, orderings, limit, offset,
timeout and hint. Operands and the hint are percent-encoded one by one; everything else stands as it
was given. Only a group of conditions has no written form.
-/

namespace RestQuery

/-- A request against the service: its path, its query string and its body. -/
structure Request where
  path : String
  /-- The query string without a question mark; it may be empty. -/
  query : String
  body : Option Json

/-- A location with a query string behind it, unless that is empty. -/
def withQuery (location query : String) : String :=
  if query.isEmpty then location else location ++ "?" ++ query

/-- The path with the query string behind it. -/
def Request.url (request : Request) : String :=
  withQuery request.path request.query

/-- The path of an operation on a collection. -/
def requestPath (collection operation : String) : String :=
  "/" ++ collection ++ "/" ++ operation

/-- The non-empty segments with `&` between neighbours. -/
def concatenate (segments : List String) : String :=
  Text.join '&' (segments.filter (!·.isEmpty))

/-- A list of columns asks for every column: it is empty or names `*`. -/
def isWildcard (columns : List String) : Bool :=
  columns.isEmpty || columns.contains "*"

/-- The column without the collection and a dot in front of it. -/
def stripCollection (collection column : String) : String :=
  if collection.isEmpty then column else (Text.dropStart? (collection ++ ".") column).getD column

/-- Scalars as they are written, with commas between neighbours. -/
def encodeList (values : List Scalar) : String :=
  Text.join ',' (values.map Scalar.encode)

namespace Condition

/-- What is written in front of a condition to join it with those before it. -/
def marker (condition : Condition) : String :=
  match condition.junction with
  | .and => ""
  | .or => "!"

/-- Why a group cannot be compiled. -/
def nestedNotSupported : QueryError :=
  .notSupported "nested where clauses have no query-string form"

/-- The column and the rule of a condition; a group has none. -/
def rule? : Condition → Option (String × String)
  | basic column operator value _ =>
      some (column, Operator.compiledToken operator ++ ":" ++ value.encode)
  | oneOf column values _ => some (column, "in:" ++ encodeList values)
  | noneOf column values _ => some (column, "nin:" ++ encodeList values)
  | null column _ => some (column, "null")
  | notNull column _ => some (column, "!null")
  | between column low high _ outside =>
      some (column, (if outside then "!" else "") ++ "between:" ++ low.encode ++ "," ++ high.encode)
  | nested _ _ => none

/-- The segment of a condition. -/
def segment (collection : String) (condition : Condition) : Except QueryError String :=
  match condition.rule? with
  | some (column, rule) =>
      .ok (condition.marker ++ stripCollection collection column ++ "=" ++ rule)
  | none => .error nestedNotSupported

end Condition

namespace Builder

/-- The aggregate segment; its columns are left out when they ask for every column. -/
def aggregateSegment (builder : Builder) : String :=
  match builder.aggregate with
  | none => ""
  | some aggregate =>
      if isWildcard aggregate.columns then "_aggregate=" ++ aggregate.function
      else "_aggregate=" ++ aggregate.function ++ ":" ++ Text.join ',' aggregate.columns

/-- The columns segment; empty when every column is asked for. -/
def columnsSegment (builder : Builder) : String :=
  match builder.columns with
  | none => ""
  | some columns => if isWildcard columns then "" else "field=" ++ Text.join ',' columns

/-- The segments of the conditions in order. -/
def conditionSegments (builder : Builder) : Except QueryError (List String) :=
  builder.conditions.mapM (Condition.segment builder.collection)

/-- The segments of the conditions, joined. -/
def compileConditions (builder : Builder) : Except QueryError String :=
  builder.conditionSegments.map (Text.join '&')

/-- One ordering as it is written. -/
def orderItem (collection : String) (order : String × SortOrder) : String :=
  stripCollection collection order.1 ++ ":" ++ order.2.signText

/-- The orderings segment. -/
def ordersSegment (builder : Builder) : String :=
  if builder.orders.isEmpty then ""
  else "_orderBy=" ++ Text.join ',' (builder.orders.map (orderItem builder.collection))

/-- A segment that holds a number, empty when the number is not set. -/
def countSegment (key : String) : Option UInt64 → String
  | none => ""
  | some count => key ++ "=" ++ count.toNat.repr

def limitSegment (builder : Builder) : String :=
  countSegment "_limit" builder.limit

def offsetSegment (builder : Builder) : String :=
  countSegment "_offset" builder.offset

def timeoutSegment (builder : Builder) : String :=
  countSegment "_timeout" builder.timeout

def hintSegment (builder : Builder) : String :=
  match builder.hint with
  | none => ""
  | some hint => "_hint=" ++ Percent.encode hint

/-- Every segment of the query string in order, empty ones included. -/
def segments (builder : Builder) : Except QueryError (List String) :=
  builder.compileConditions.map fun conditions =>
    [builder.aggregateSegment, builder.columnsSegment, conditions, builder.ordersSegment,
      builder.limitSegment, builder.offsetSegment, builder.timeoutSegment, builder.hintSegment]

/-- The request that reads what the builder asks for. -/
def compile (builder : Builder) : Except QueryError Request :=
  builder.segments.map fun segments =>
    { path := requestPath builder.collection "query"
      query := concatenate segments
      body := none }

/-- The request that inserts values into the collection. -/
def compileInsert (builder : Builder) (values : Json) : Request where
  path := requestPath builder.collection "insert"
  query := ""
  body := some values

end Builder

end RestQuery

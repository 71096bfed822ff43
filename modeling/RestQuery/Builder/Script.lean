import RestQuery.Binding
import RestQuery.Wire.Event

/-!
# Scripts

A script is a list of builder steps as data. Running a step gives the next builder and what the step
answers. A group carries a script of its own, which runs on a fresh builder against the same
collection; what its steps answer is not kept.
-/

namespace RestQuery

/-- One step of building a query. -/
inductive Step where
  | setCollection (collection : String)
  | select (columns : List String)
  | addSelect (columns : List String)
  | groupBy (columns : List String)
  | distinct
  | distinctOn (column : String)
  | compare (junction : Junction) (column operator : String) (value : Scalar)
  | whereIn (junction : Junction) (column : String) (values : List Scalar)
  | whereNotIn (junction : Junction) (column : String) (values : List Scalar)
  | whereNull (junction : Junction) (column : String)
  | whereNotNull (junction : Junction) (column : String)
  | whereBetween (junction : Junction) (column : String) (low high : Scalar) (outside : Bool)
  | whereNested (junction : Junction) (steps : List Step)
  | addFilter (filter : FieldFilter)
  | orderBy (column : String) (order : SortOrder)
  | take (count : UInt64)
  | skip (count : UInt64)
  | forPage (page perPage : UInt64)
  | timeout (seconds : UInt64)
  | hint (index : String)
  | aggregate (function : String) (columns : List String)
  | clearAggregate
  | find (id : Scalar)
  /-- Starts over against the same collection. -/
  | newQuery
  /-- Compiles an insert; the builder stays as it is. -/
  | insert (values : Json)
  /-- Binds a query string without a catalog. -/
  | bind (raw : String)

/-- What a step answers besides the next builder. -/
inductive StepAnswer where
  | nothing
  | request (request : Request)
  | projection (columns : List String)
  | failure (error : QueryError)

namespace Step

/-- The outcome of a step that only changes the builder. -/
def unanswered (builder : Builder) : Builder × StepAnswer :=
  (builder, .nothing)

mutual

/-- The next builder and the answer of a step. -/
def run (builder : Builder) : Step → Builder × StepAnswer
  | setCollection collection => unanswered (builder.setCollection collection)
  | select columns => unanswered (builder.select columns)
  | addSelect columns => unanswered (builder.addSelect columns)
  | groupBy columns => unanswered (builder.groupBy columns)
  | distinct => unanswered builder.makeDistinct
  | distinctOn column => unanswered (builder.distinctOn column)
  | compare junction column operator value =>
      unanswered (builder.compare junction column operator value)
  | whereIn junction column values => unanswered (builder.whereIn junction column values)
  | whereNotIn junction column values => unanswered (builder.whereNotIn junction column values)
  | whereNull junction column => unanswered (builder.whereNull junction column)
  | whereNotNull junction column => unanswered (builder.whereNotNull junction column)
  | whereBetween junction column low high outside =>
      unanswered (builder.whereBetween junction column low high outside)
  | whereNested junction steps =>
      unanswered (builder.whereNested junction fun fresh => runAll fresh steps)
  | addFilter filter =>
      match builder.addFilter filter with
      | .ok next => (next, .nothing)
      | .error error => (builder, .failure error)
  | orderBy column order => unanswered (builder.orderBy column order)
  | take count => unanswered (builder.take count)
  | skip count => unanswered (builder.skip count)
  | forPage page perPage => unanswered (builder.forPage page perPage)
  | timeout seconds => unanswered (builder.setTimeout seconds)
  | hint index => unanswered (builder.setHint index)
  | aggregate function columns => unanswered (builder.setAggregate function columns)
  | clearAggregate => unanswered builder.clearAggregate
  | find id => unanswered (builder.find id)
  | newQuery => unanswered builder.newQuery
  | insert values => (builder, .request (builder.compileInsert values))
  | bind raw =>
      let bound := RestQuery.bind (parseQueryString raw).query builder none
      match bound.projection with
      | .ok columns => (bound.target, .projection columns)
      | .error error => (bound.target, .failure error)

/-- The builder after steps, one after another. -/
def runAll (builder : Builder) : List Step → Builder
  | [] => builder
  | step :: rest => runAll (run builder step).1 rest

end

end Step

end RestQuery

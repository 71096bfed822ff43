import RestQuery.Builder
import RestQuery.Query
import RestQuery.Wire.Segments

/-!
# Applying a query to a target

Binding walks a structured query and drives a target: filters, then orderings, then directives, each
in recorded order. What it does is a list of calls, which depends on the query alone; running the
calls on a target stops at the first one that fails, and keeps what the target has become by then.

The projection is not applied. It is handed back, checked first against a catalog of known columns
when there is one and the projection names columns. The catalog is consulted once, before the
target is touched.
-/

namespace RestQuery

/-- Something that binding asks of a target. -/
inductive Call where
  | filter (filter : FieldFilter)
  | order (field : String) (direction : Direction)
  | limit (count : UInt64)
  | offset (count : UInt64)
  /-- Requires a field to be null, or not to be. -/
  | null (field : String) (negated : Bool)
deriving DecidableEq, Repr

/-- The query objects that a query can be bound to. Only adding a filter can fail. -/
class Bindable (Target : Type) where
  collection : Target → String
  addFilter : FieldFilter → Target → Target × Option QueryError
  addOrder : String → Direction → Target → Target
  setLimit : UInt64 → Target → Target
  setOffset : UInt64 → Target → Target
  addNull : String → Bool → Target → Target

/-- The known columns of each collection. -/
abbrev Catalog := String → List String

/-- A catalog that is given by a table; a collection that is not in it has no columns. -/
def Catalog.ofTable (table : List (String × List String)) : Catalog :=
  fun collection => (table.lookup collection).getD []

namespace Call

variable {Target : Type} [Bindable Target]

/-- One call on a target. -/
def run (target : Target) : Call → Target × Option QueryError
  | filter added => Bindable.addFilter added target
  | order field direction => (Bindable.addOrder field direction target, none)
  | limit count => (Bindable.setLimit count target, none)
  | offset count => (Bindable.setOffset count target, none)
  | null field negated => (Bindable.addNull field negated target, none)

/-- Calls one after another, up to the first that fails. -/
def runAll (target : Target) : List Call → Target × Option QueryError
  | [] => (target, none)
  | call :: rest =>
      match run target call with
      | (next, none) => runAll next rest
      | (next, some error) => (next, some error)

end Call

namespace Query

/-- The fields that a null directive names. -/
def nullFields (value : String) : List String :=
  (Text.split ',' value).filter (!·.isEmpty)

/-- The calls that a directive gives; a paging value that is no number gives none. -/
def directiveCalls (query : Query) (directive : Directive) : List Call :=
  match directive.kind with
  | .limit => query.limit?.toList.map .limit
  | .offset => query.offset?.toList.map .offset
  | .null => (nullFields directive.value).map (.null · false)
  | .notNull => (nullFields directive.value).map (.null · true)
  | .condition => []

/-- The calls that binding a query makes. -/
def calls (query : Query) : List Call :=
  query.filters.map .filter ++ query.orders.map (fun order => .order order.field order.direction) ++
    query.directives.flatMap query.directiveCalls

end Query

/-- The requested columns that are not among the known ones, in requested order. -/
def unknownColumns (columns known : List String) : List String :=
  columns.filter (!known.contains ·)

/-- Checks the requested columns of a collection against its known columns. -/
def validateProjection (collection : String) (columns : List String) (catalog : Catalog) :
    Except QueryError Unit :=
  let unknown := unknownColumns columns (catalog collection)
  if unknown.isEmpty then .ok () else .error (.invalidProjection collection unknown)

/-- The outcome of binding. -/
structure Binding (Target : Type) where
  target : Target
  /-- The requested columns, or why binding failed. -/
  projection : Except QueryError (List String)
  /-- The collections that the catalog was asked about. -/
  asked : List String

/-- Runs the calls of a query on a target and hands back its projection. -/
def bindCalls {Target : Type} [Bindable Target] (query : Query) (target : Target)
    (asked : List String) : Binding Target :=
  match Call.runAll target query.calls with
  | (target, none) => ⟨target, .ok query.select, asked⟩
  | (target, some error) => ⟨target, .error error, asked⟩

/-- Applies a query to a target, after checking its projection against a catalog if there is one. -/
def bind {Target : Type} [Bindable Target] (query : Query) (target : Target)
    (catalog : Option Catalog) : Binding Target :=
  match catalog with
  | none => bindCalls query target []
  | some catalog =>
      if isWildcard query.select then bindCalls query target []
      else
        let collection := Bindable.collection target
        match validateProjection collection query.select catalog with
        | .ok () => bindCalls query target [collection]
        | .error error => ⟨target, .error error, [collection]⟩

/-- A builder records each call as the matching condition, ordering or page. -/
instance : Bindable Builder where
  collection := Builder.collection
  addFilter filter builder :=
    match builder.addFilter filter with
    | .ok builder => (builder, none)
    | .error error => (builder, some error)
  addOrder field direction builder := builder.orderBy field direction.resolve
  setLimit := Builder.take
  setOffset := Builder.skip
  addNull field negated builder :=
    if negated then builder.whereNotNull .and field else builder.whereNull .and field

end RestQuery

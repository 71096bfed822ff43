import RestQuery.Decimal.Reading
import RestQuery.Query.FieldFilter
import RestQuery.Query.SortKey

/-!
# Structured queries

A structured query is what a query string means and what is applied to a builder: filters and
orderings in the order they were met, a projection, and at most one value for each kind of
directive. Directive values stay as written; paging values are read on demand.
-/

namespace RestQuery

/-- A directive that is stored by kind. -/
inductive DirectiveKind where
  | limit
  | offset
  /-- A raw condition, which is kept and never applied. -/
  | condition
  /-- Fields that must not be null, between commas. -/
  | notNull
  /-- Fields that must be null, between commas. -/
  | null
deriving DecidableEq, Repr, Inhabited

namespace DirectiveKind

/-- Every kind. -/
def all : List DirectiveKind :=
  [.limit, .offset, .condition, .notNull, .null]

/-- The lower-case name of a kind, without the underscore. -/
def name : DirectiveKind → String
  | limit => "limit"
  | offset => "offset"
  | condition => "where"
  | notNull => "notnull"
  | null => "null"

/-- The kind with a name. -/
def ofName? (name : String) : Option DirectiveKind :=
  all.find? (·.name = name)

@[simp]
theorem ofName?_name (kind : DirectiveKind) : ofName? kind.name = some kind := by
  cases kind <;> decide

end DirectiveKind

/-- A directive and its value as written. -/
structure Directive where
  kind : DirectiveKind
  value : String
deriving DecidableEq, Repr, Inhabited

/-- Filters, orderings, projection and directives of one query. -/
structure Query where
  filters : List FieldFilter
  orders : List SortKey
  /-- The requested columns, if any were named. -/
  projection : Option (List String)
  directives : List Directive
deriving DecidableEq, Repr

/-- Stores a directive: a kind that is present keeps its place and takes the new value. -/
def putDirective (kind : DirectiveKind) (value : String) : List Directive → List Directive
  | [] => [⟨kind, value⟩]
  | directive :: rest =>
      if directive.kind = kind then ⟨directive.kind, value⟩ :: rest
      else directive :: putDirective kind value rest

namespace Query

/-- The query that asks for everything. -/
def empty : Query := ⟨[], [], none, []⟩

instance : Inhabited Query := ⟨empty⟩

/-- Adds a filter after the others. -/
def filter (filter : FieldFilter) (query : Query) : Query :=
  { query with filters := query.filters ++ [filter] }

/-- Adds an ordering after the others. -/
def order (key : SortKey) (query : Query) : Query :=
  { query with orders := query.orders ++ [key] }

/-- Sets the requested columns. -/
def project (columns : List String) (query : Query) : Query :=
  { query with projection := some columns }

/-- Stores a directive. -/
def setDirective (kind : DirectiveKind) (value : String) (query : Query) : Query :=
  { query with directives := putDirective kind value query.directives }

/-- Sets the greatest number of results. -/
def limit (count : UInt64) (query : Query) : Query :=
  query.setDirective .limit count.toNat.repr

/-- Sets the number of results to skip. -/
def offset (count : UInt64) (query : Query) : Query :=
  query.setDirective .offset count.toNat.repr

/-- The value of a directive as written. -/
def directive? (kind : DirectiveKind) (query : Query) : Option String :=
  (query.directives.find? (·.kind = kind)).map (·.value)

/-- The number that a directive holds, blanks around it aside. -/
def paging? (kind : DirectiveKind) (query : Query) : Option UInt64 :=
  (query.directive? kind).bind fun value => readUnsigned? (Text.trimChars value.toList)

/-- The greatest number of results, if it is set to a number. -/
def limit? (query : Query) : Option UInt64 :=
  query.paging? .limit

/-- The number of results to skip, if it is set to a number. -/
def offset? (query : Query) : Option UInt64 :=
  query.paging? .offset

/-- The requested columns, which are all of them when none were named. -/
def select (query : Query) : List String :=
  query.projection.getD ["*"]

/-- The query asks for everything. -/
def isEmpty (query : Query) : Bool :=
  query.filters.isEmpty && query.orders.isEmpty && query.projection.isNone &&
    query.directives.isEmpty

end Query

end RestQuery

import RestQuery.Decimal.Reading
import RestQuery.Service.Config
import RestQuery.Service.Response

/-!
# Connections

A connection runs builders against the service at a base address. Every operation compiles its
builder first, so a builder that cannot be compiled sends nothing; otherwise it makes one request.
Operations are functions on the transport's state, which they return together with their result.
-/

namespace RestQuery

/-- A result together with the transport after it. -/
abbrev Outcome (Value : Type) := Except ServiceError Value × Transport

namespace Outcome

/-- The outcome with its result changed. -/
def map {Value Other : Type} (change : Value → Other) (outcome : Outcome Value) : Outcome Other :=
  (outcome.1.map change, outcome.2)

end Outcome

/-- A service reached at a base address. -/
structure Connection where
  config : ServiceConfig
  baseUrl : String
deriving DecidableEq, Repr

namespace Connection

/-- A connection to the service of a configuration. -/
def ofConfig (config : ServiceConfig) : Except ConfigError Connection :=
  config.baseUrl.map fun baseUrl => ⟨config, baseUrl⟩

/-- Makes a request and decodes its response. -/
def request (method : Method) (path : String) (payload : Payload) (transport : Transport)
    (connection : Connection) : Outcome Json :=
  let url := connection.baseUrl ++ path
  match transport.execute ⟨method, url, payload⟩ with
  | (.ok body, transport) => (decode url body, transport)
  | (.error error, transport) => (.error (.transport error), transport)

/-- Runs a compiled request that reads; its query string travels beside the address. -/
def select (compiled : Request) (transport : Transport) (connection : Connection) :
    Outcome Json :=
  connection.request .get compiled.path (.query compiled.query) transport

/-- Every row that a builder asks for. -/
def get (builder : Builder) (transport : Transport) (connection : Connection) :
    Outcome (List Json) :=
  match builder.compile with
  | .error error => (.error (.query error), transport)
  | .ok compiled => Outcome.map rows (connection.select compiled transport)

/-- The first row, if there is one. -/
def first (builder : Builder) (transport : Transport) (connection : Connection) :
    Outcome (Option Json) :=
  Outcome.map List.head? (connection.get (builder.take 1) transport)

/-- The record with an id, if there is one. -/
def find (builder : Builder) (id : Scalar) (transport : Transport) (connection : Connection) :
    Outcome (Option Json) :=
  connection.first (builder.find id) transport

/-- There is a row. -/
def hasRows (builder : Builder) (transport : Transport) (connection : Connection) : Outcome Bool :=
  Outcome.map Option.isSome (connection.first builder transport)

/-- The builder that asks for one column, unless it asks for some already. -/
def pluckBuilder (builder : Builder) (column : String) : Builder :=
  if builder.columns.isNone then builder.select [column] else builder

/-- One column of every row, `null` where a row does not have it. -/
def pluck (builder : Builder) (column : String) (transport : Transport) (connection : Connection) :
    Outcome (List Json) :=
  Outcome.map (List.map fun row => (row.field? column).getD .null)
    (connection.get (pluckBuilder builder column) transport)

/-- What an aggregate call found: the `aggregate` member of the first row. -/
def aggregateValue? (found : List Json) : Option Json :=
  found.head?.bind (·.field? "aggregate")

/--
Calls an aggregate function. The builder comes back without aggregate and columns, whether or not
the call succeeded.
-/
def aggregate (builder : Builder) (function : String) (columns : List String)
    (transport : Transport) (connection : Connection) : Outcome (Option Json) × Builder :=
  let calling := builder.setAggregate function columns
  (Outcome.map aggregateValue? (connection.get calling transport), calling.clearAggregate)

/-- The count that a value gives: a number or the text of one, and zero for anything else. -/
def countOf (value : Option Json) : UInt64 :=
  match value with
  | some (.int number) => if 0 ≤ number then UInt64.ofNat number.toNat else 0
  | some (.text text) => (readUnsigned? text.toList).getD 0
  | _ => 0

/-- Counts the rows. -/
def count (builder : Builder) (transport : Transport) (connection : Connection) :
    Outcome UInt64 × Builder :=
  let (outcome, builder) := connection.aggregate builder "count" ["*"] transport
  (Outcome.map countOf outcome, builder)

/-- Inserts values into the collection of a builder. -/
def insert (builder : Builder) (values : Json) (transport : Transport) (connection : Connection) :
    Outcome Json :=
  connection.request .post (builder.compileInsert values).path (.json values) transport

end Connection

end RestQuery

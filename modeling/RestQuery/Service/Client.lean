import RestQuery.Service.Connection

/-!
# Clients at work

A client uses one connection again and again. An operation carries what its caller gives to it, the
builder among that; what an operation answers depends on its kind. Between operations further
replies may be queued on the transport.
-/

namespace RestQuery

/-- The aggregate functions that are called over a single column. -/
inductive ColumnFunction where
  | max
  | min
  | sum
  | avg
deriving DecidableEq, Repr

def ColumnFunction.name : ColumnFunction → String
  | .max => "max"
  | .min => "min"
  | .sum => "sum"
  | .avg => "avg"

/-- Calls an aggregate function over one column. -/
def Connection.summarize (builder : Builder) (function : ColumnFunction) (column : String)
    (transport : Transport) (connection : Connection) : Outcome (Option Json) × Builder :=
  connection.aggregate builder function.name [column] transport

/-- What a client asks of its connection. -/
inductive ClientOperation where
  | get (builder : Builder)
  | first (builder : Builder)
  | find (builder : Builder) (id : Scalar)
  | hasRows (builder : Builder)
  | pluck (builder : Builder) (column : String)
  | aggregate (builder : Builder) (function : String) (columns : List String)
  | count (builder : Builder)
  | summarize (builder : Builder) (function : ColumnFunction) (column : String)
  | insert (builder : Builder) (values : Json)

/-- What an operation answers. -/
inductive ClientAnswer where
  | rows (rows : List Json)
  | row? (row : Option Json)
  | truth (value : Bool)
  | value? (value : Option Json)
  | count (count : UInt64)
  | result (result : Json)

namespace ClientOperation

/-- Runs an operation on a transport. -/
def perform (connection : Connection) (transport : Transport) :
    ClientOperation → Outcome ClientAnswer
  | get builder => (connection.get builder transport).map .rows
  | first builder => (connection.first builder transport).map .row?
  | find builder id => (connection.find builder id transport).map .row?
  | hasRows builder => (connection.hasRows builder transport).map .truth
  | pluck builder column => (connection.pluck builder column transport).map .rows
  | aggregate builder function columns =>
      (connection.aggregate builder function columns transport).1.map .value?
  | count builder => (connection.count builder transport).1.map .count
  | summarize builder function column =>
      (connection.summarize builder function column transport).1.map .value?
  | insert builder values => (connection.insert builder values transport).map .result

end ClientOperation

/-- One step of using a client. -/
inductive ClientStep where
  /-- Queues a reply for a later request. -/
  | queue (reply : Reply)
  | perform (operation : ClientOperation)

namespace ClientStep

/-- The transport after a step. -/
def run (connection : Connection) (transport : Transport) : ClientStep → Transport
  | queue reply => transport.enqueue reply
  | perform operation => (operation.perform connection transport).2

/-- The transport after steps, one after another. -/
def runAll (connection : Connection) (transport : Transport) (steps : List ClientStep) :
    Transport :=
  steps.foldl (run connection) transport

end ClientStep

end RestQuery

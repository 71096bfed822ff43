import RestQuery.Proofs.Service.Exchanges

/-!
# Aggregate calls on one builder

Aggregate calls change the builder that they are made on: they set its aggregate, send it and clear
it again, together with its columns. `requests_of_aggregates` follows one builder through any number
of them, whatever becomes of each. Nothing of a call is left on the builder, and a request carries
the aggregate of its own call only. The columns are all that a first call takes away from later
ones.
-/

namespace RestQuery

/-- A call of an aggregate function. -/
inductive AggregateCall where
  | aggregate (function : String) (columns : List String)
  | count
  | summarize (function : ColumnFunction) (column : String)
deriving DecidableEq, Repr

namespace AggregateCall

/-- The answer of a call, with the transport and the builder after it. -/
def perform (connection : Connection) (transport : Transport) (builder : Builder) :
    AggregateCall → Outcome ClientAnswer × Builder
  | aggregate function columns =>
      let (outcome, builder) := connection.aggregate builder function columns transport
      (outcome.map .value?, builder)
  | count =>
      let (outcome, builder) := connection.count builder transport
      (outcome.map .count, builder)
  | summarize function column =>
      let (outcome, builder) := connection.summarize builder function column transport
      (outcome.map .value?, builder)

/-- The function and the columns of a call. -/
def requested : AggregateCall → Aggregate
  | aggregate function columns => ⟨function, columns⟩
  | count => ⟨"count", ["*"]⟩
  | summarize function column => ⟨function.name, [column]⟩

/-- The call as an operation of a client. -/
def operation (builder : Builder) : AggregateCall → ClientOperation
  | aggregate function columns => .aggregate builder function columns
  | count => .count builder
  | summarize function column => .summarize builder function column

theorem perform_eq (connection : Connection) (transport : Transport) (builder : Builder)
    (call : AggregateCall) :
    call.perform connection transport builder =
      ((call.operation builder).perform connection transport, builder.clearAggregate) := by
  cases call <;> rfl

theorem target_operation (builder : Builder) (call : AggregateCall) :
    (call.operation builder).target = { builder with aggregate := some call.requested } := by
  cases call <;> rfl

end AggregateCall

/-- A builder in use, with the transport that its calls go to. -/
structure AggregateSession where
  builder : Builder
  transport : Transport

/-- One step of using a builder for aggregates. -/
inductive AggregateStep where
  /-- Queues a reply for a later call. -/
  | queue (reply : Reply)
  | call (call : AggregateCall)

namespace AggregateStep

/-- The session after a step. -/
def run (connection : Connection) (session : AggregateSession) : AggregateStep → AggregateSession
  | queue reply => { session with transport := session.transport.enqueue reply }
  | call made =>
      let (outcome, builder) := made.perform connection session.transport session.builder
      ⟨builder, outcome.2⟩

/-- The session after steps, one after another. -/
def runAll (connection : Connection) (session : AggregateSession) (steps : List AggregateStep) :
    AggregateSession :=
  steps.foldl (run connection) session

def calls (steps : List AggregateStep) : List AggregateCall :=
  steps.filterMap fun step =>
    match step with
    | queue _ => none
    | call made => some made

end AggregateStep

namespace Builder

/-- What a builder asks for over calls: its own columns in the first, and none in later ones. -/
def askedInCalls (builder : Builder) : List AggregateCall → List Builder
  | [] => []
  | first :: later =>
      { builder with aggregate := some first.requested } ::
        later.map fun call =>
          { builder with aggregate := some call.requested, columns := none }

theorem askedInCalls_cons (builder : Builder) (first : AggregateCall)
    (later : List AggregateCall) :
    builder.askedInCalls (first :: later) =
      { builder with aggregate := some first.requested } ::
        builder.clearAggregate.askedInCalls later := by
  cases later <;> rfl

end Builder

/-- The request that a builder is read with; none if it cannot be compiled. -/
def Connection.request? (connection : Connection) (builder : Builder) : Option SentRequest :=
  builder.compile.toOption.map connection.readCall

namespace AggregateStep

variable (connection : Connection)

theorem calls_perform (transport : Transport) (builder : Builder) (made : AggregateCall) :
    (made.perform connection transport builder).1.2.calls =
      transport.calls ++
        (connection.request? { builder with aggregate := some made.requested }).toList := by
  rw [← made.target_operation, made.perform_eq]
  have reads : (made.operation builder).isInsert = false := by
    cases made <;> rfl
  unfold Connection.request?
  cases compiled : (made.operation builder).target.compile with
  | ok request =>
      simp [ClientOperation.perform_of_compile connection transport _ reads compiled,
        Except.toOption]
  | error error =>
      simp [ClientOperation.perform_of_error connection transport _ reads compiled,
        Except.toOption]

theorem runAll_cons (session : AggregateSession) (step : AggregateStep)
    (rest : List AggregateStep) :
    runAll connection session (step :: rest) =
      runAll connection (step.run connection session) rest := rfl

theorem builder_run_call (session : AggregateSession) (made : AggregateCall) :
    ((call made).run connection session).builder = session.builder.clearAggregate := by
  simp only [run, made.perform_eq]

theorem builder_runAll (steps : List AggregateStep) (session : AggregateSession) :
    (runAll connection session steps).builder =
      if calls steps = [] then session.builder else session.builder.clearAggregate := by
  induction steps generalizing session with
  | nil => rfl
  | cons step rest ih =>
      simp only [runAll_cons, ih]
      cases step with
      | queue reply => rfl
      | call made =>
          have someCall : calls (call made :: rest) ≠ [] := by simp [calls]
          simp only [someCall, builder_run_call]
          -- A builder that is clear stays as it is.
          split <;> rfl

theorem calls_runAll (steps : List AggregateStep) (session : AggregateSession) :
    (runAll connection session steps).transport.calls =
      session.transport.calls ++
        (session.builder.askedInCalls (calls steps)).filterMap connection.request? := by
  induction steps generalizing session with
  | nil => simp [runAll, calls, Builder.askedInCalls]
  | cons step rest ih =>
      simp only [runAll_cons, ih]
      cases step with
      | queue reply => rfl
      | call made =>
          have sent : ((call made).run connection session).transport.calls = _ :=
            calls_perform connection session.transport session.builder made
          have callsCons : calls (call made :: rest) = made :: calls rest := rfl
          simp only [sent, builder_run_call, callsCons, Builder.askedInCalls_cons,
            List.filterMap_cons, List.append_assoc]
          cases connection.request? { session.builder with aggregate := some made.requested } <;>
            rfl

/--
After any number of aggregate calls, however they turn out, a builder has neither aggregate nor
columns and is else what it was before the first. Each request that is sent is what this builder
compiles to with the aggregate of that call: with its own columns in the first call, and with none
in later ones.
-/
theorem requests_of_aggregates (session : AggregateSession) (steps : List AggregateStep) :
    let reached := runAll connection session steps
    reached.builder =
        (if calls steps = [] then session.builder
        else { session.builder with aggregate := none, columns := none }) ∧
      reached.transport.calls =
        session.transport.calls ++
          (session.builder.askedInCalls (calls steps)).filterMap connection.request? :=
  ⟨builder_runAll connection steps session, calls_runAll connection steps session⟩

end AggregateStep

end RestQuery

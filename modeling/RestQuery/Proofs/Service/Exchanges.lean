import RestQuery.Proofs.Wire.Compiled
import RestQuery.Service.Client

/-!
# Exchanges of a client

Every operation of a client comes down to one exchange or none: the operations that read are built
on one another, and the innermost compiles a builder before it sends anything. What an operation
answers is a function of the one reply that it takes.

So over any run the transport is a queue. Replies leave it in the order in which they came in, each
of them for one call, and the calls only grow.
-/

namespace RestQuery

namespace Connection

variable (connection : Connection) (transport : Transport)

/-- The result that a reply gives, and the one of an empty response if no reply is queued. -/
def resultOf (url : String) : Option Reply → Except ServiceError Json
  | none => decode url Transport.defaultBody
  | some (.body text) => decode url text
  | some (.failure message) => .error (.transport ⟨url, message⟩)

theorem request_eq (method : Method) (path : String) (payload : Payload) :
    connection.request method path payload transport =
      (resultOf (connection.baseUrl ++ path) transport.queue.head?,
        ⟨transport.queue.tail,
          transport.calls ++ [⟨method, connection.baseUrl ++ path, payload⟩]⟩) := by
  unfold request Transport.execute
  rcases transport with ⟨queue, calls⟩
  rcases queue with _ | ⟨reply, rest⟩
  · rfl
  · cases reply <;> rfl

def readCall (compiled : Request) : SentRequest :=
  ⟨.get, connection.baseUrl ++ compiled.path, .query compiled.query⟩

theorem get_of_compile {builder : Builder} {compiled : Request}
    (compiles : builder.compile = .ok compiled) :
    connection.get builder transport =
      ((resultOf (connection.readCall compiled).url transport.queue.head?).map rows,
        ⟨transport.queue.tail, transport.calls ++ [connection.readCall compiled]⟩) := by
  simp only [get, compiles, select, request_eq, Outcome.map, readCall]

theorem get_of_error {builder : Builder} {error : QueryError}
    (fails : builder.compile = .error error) :
    connection.get builder transport = (.error (.query error), transport) := by
  simp only [get, fails]

end Connection

namespace ClientOperation

def builder : ClientOperation → Builder
  | get builder | first builder | find builder _ | hasRows builder | pluck builder _
  | aggregate builder _ _ | count builder | summarize builder _ _ | insert builder _ => builder

def isInsert : ClientOperation → Bool
  | insert .. => true
  | _ => false

/-- The operation sends a request: it inserts, or no group keeps its builder from compiling. -/
def sends (operation : ClientOperation) : Bool :=
  operation.isInsert || operation.builder.conditions.all fun condition => !condition.isNested

/-- The builder that an operation which reads has compiled. -/
def target : ClientOperation → Builder
  | get builder => builder
  | first builder => builder.take 1
  | find builder id => (builder.find id).take 1
  | hasRows builder => builder.take 1
  | pluck builder column => Connection.pluckBuilder builder column
  | aggregate builder function columns => builder.setAggregate function columns
  | count builder => builder.setAggregate "count" ["*"]
  | summarize builder function column => builder.setAggregate function.name [column]
  | insert builder _ => builder

/-- What an operation makes of the result of its request. -/
def interpret : ClientOperation → Json → ClientAnswer
  | get _, result => .rows (rows result)
  | first _, result | find _ _, result => .row? (rows result).head?
  | hasRows _, result => .truth (rows result).head?.isSome
  | pluck _ column, result =>
      .rows ((rows result).map fun row => (row.field? column).getD .null)
  | aggregate .., result | summarize .., result =>
      .value? (Connection.aggregateValue? (rows result))
  | count _, result => .count (Connection.countOf (Connection.aggregateValue? (rows result)))
  | insert .., result => .result result

variable (connection : Connection) (transport : Transport) (operation : ClientOperation)

/-- What an operation adds to the builder of its caller is never a group. -/
theorem isFlat_target_iff : operation.target.IsFlat ↔ operation.builder.IsFlat := by
  cases operation with
  | find builder id =>
      simp [target, ClientOperation.builder, Builder.IsFlat, Builder.find, Builder.take,
        Builder.compare, Builder.push, Condition.isNested, or_imp, forall_and]
  | pluck builder column =>
      simp only [target, Connection.pluckBuilder]
      split <;> rfl
  | _ => rfl

theorem sends_eq_true_iff :
    operation.sends = true ↔ operation.isInsert = true ∨ operation.target.IsFlat := by
  rw [isFlat_target_iff]
  simp [sends, Builder.IsFlat]

theorem perform_of_compile {compiled : Request} (reads : operation.isInsert = false)
    (compiles : operation.target.compile = .ok compiled) :
    operation.perform connection transport =
      ((Connection.resultOf (connection.readCall compiled).url transport.queue.head?).map
          operation.interpret,
        ⟨transport.queue.tail, transport.calls ++ [connection.readCall compiled]⟩) := by
  have got := connection.get_of_compile transport compiles
  generalize Connection.resultOf (connection.readCall compiled).url transport.queue.head? = result
    at got ⊢
  cases operation with
  | insert builder values => cases reads
  | _ =>
      simp only [target] at got
      simp only [perform, Connection.find, Connection.hasRows, Connection.first, Connection.pluck,
        Connection.count, Connection.summarize, Connection.aggregate, got, Outcome.map]
      cases result <;> rfl

theorem perform_of_error {error : QueryError} (reads : operation.isInsert = false)
    (fails : operation.target.compile = .error error) :
    operation.perform connection transport = (.error (.query error), transport) := by
  have got := connection.get_of_error transport fails
  cases operation with
  | insert builder values => cases reads
  | _ =>
      simp only [target] at got
      simp only [perform, Connection.find, Connection.hasRows, Connection.first, Connection.pluck,
        Connection.count, Connection.summarize, Connection.aggregate, got, Outcome.map]
      rfl

/-- An operation that sends makes one call and answers by the oldest reply. -/
theorem exists_call_of_sends (sends : operation.sends = true) :
    ∃ call : SentRequest, operation.perform connection transport =
      ((Connection.resultOf call.url transport.queue.head?).map operation.interpret,
        ⟨transport.queue.tail, transport.calls ++ [call]⟩) := by
  rw [sends_eq_true_iff] at sends
  cases reads : operation.isInsert with
  | true =>
      cases operation with
      | insert builder values =>
          refine ⟨⟨.post, connection.baseUrl ++ (builder.compileInsert values).path,
            .json values⟩, ?_⟩
          rw [perform, Connection.insert, Connection.request_eq]
          rfl
      | _ => cases reads
  | false =>
      have flat : operation.target.IsFlat := by
        rcases sends with isInsert | flat
        · rw [reads] at isInsert
          cases isInsert
        · exact flat
      exact ⟨_, perform_of_compile connection transport operation reads (Builder.compile_eq flat)⟩

/-- An operation that does not send leaves the transport alone. -/
theorem perform_of_not_sends (silent : operation.sends = false) :
    operation.perform connection transport =
      (.error (.query Condition.nestedNotSupported), transport) := by
  have notSends : ¬(operation.isInsert = true ∨ operation.target.IsFlat) := by
    rw [← sends_eq_true_iff, silent]
    decide
  rw [not_or, Bool.not_eq_true] at notSends
  exact perform_of_error connection transport operation notSends.1
    (Builder.compile_of_not_flat notSends.2)

end ClientOperation

namespace ClientStep

def queuedReplies (steps : List ClientStep) : List Reply :=
  steps.filterMap fun step =>
    match step with
    | queue reply => some reply
    | perform _ => none

/-- The reply that a step takes: the oldest one, if it sends and there is one. -/
def taken? (transport : Transport) : ClientStep → Option Reply
  | queue _ => none
  | perform operation => if operation.sends then transport.queue.head? else none

def takenReplies (connection : Connection) : Transport → List ClientStep → List Reply
  | _, [] => []
  | transport, step :: rest =>
      (step.taken? transport).toList ++ takenReplies connection (step.run connection transport) rest

variable (connection : Connection)

/-- A step queues behind the waiting replies what it queues, and takes from their front. -/
theorem queue_run (transport : Transport) (step : ClientStep) :
    transport.queue ++ queuedReplies [step] =
      (step.taken? transport).toList ++ (step.run connection transport).queue := by
  cases step with
  | queue reply => rfl
  | perform operation =>
      cases sends : operation.sends with
      | true =>
          rcases operation.exists_call_of_sends connection transport sends with ⟨call, performed⟩
          rcases transport with ⟨waiting, calls⟩
          cases waiting <;> simp [taken?, sends, run, performed, queuedReplies]
      | false =>
          have performed := operation.perform_of_not_sends connection transport sends
          simp [taken?, sends, run, performed, queuedReplies]

theorem calls_run (transport : Transport) (step : ClientStep) :
    transport.calls <+: (step.run connection transport).calls := by
  cases step with
  | queue reply => exact List.prefix_refl _
  | perform operation =>
      cases sends : operation.sends with
      | true =>
          rcases operation.exists_call_of_sends connection transport sends with ⟨call, performed⟩
          simp [run, performed]
      | false =>
          have performed := operation.perform_of_not_sends connection transport sends
          simp [run, performed]

/-- No reply is lost, doubled or overtaken on the way through a run. -/
theorem queue_runAll (steps : List ClientStep) (transport : Transport) :
    transport.queue ++ queuedReplies steps =
      takenReplies connection transport steps ++ (runAll connection transport steps).queue := by
  induction steps generalizing transport with
  | nil => simp [queuedReplies, takenReplies, runAll]
  | cons step rest ih =>
      have queued : queuedReplies (step :: rest) = queuedReplies [step] ++ queuedReplies rest := by
        rw [queuedReplies, ← List.singleton_append, List.filterMap_append]
        rfl
      rw [queued, ← List.append_assoc, queue_run connection, List.append_assoc,
        ih (step.run connection transport), takenReplies, List.append_assoc]
      rfl

theorem calls_runAll (steps : List ClientStep) (transport : Transport) :
    transport.calls <+: (runAll connection transport steps).calls := by
  induction steps generalizing transport with
  | nil => exact List.prefix_refl _
  | cons step rest ih =>
      exact (calls_run connection transport step).trans (ih (step.run connection transport))

/--
At every point of every run the replies queued so far are those taken, followed by those that wait,
and the calls made so far stay as they are. The next operation either makes one call and answers by
the oldest waiting reply, or by an empty response if none waits; or it is stopped by a group among
the conditions of its builder, before anything is sent.
-/
theorem exchanges_of_run (start : Transport) (before after : List ClientStep) :
    let transport := runAll connection start before
    start.queue ++ queuedReplies before =
        takenReplies connection start before ++ transport.queue ∧
      transport.calls <+: (runAll connection start (before ++ after)).calls ∧
      ∀ operation : ClientOperation,
        (operation.sends = true →
          ∃ call : SentRequest, operation.perform connection transport =
            ((Connection.resultOf call.url transport.queue.head?).map operation.interpret,
              ⟨transport.queue.tail, transport.calls ++ [call]⟩)) ∧
        (operation.sends = false →
          operation.perform connection transport =
            (.error (.query Condition.nestedNotSupported), transport)) := by
  refine ⟨queue_runAll connection before start, ?_, ?_⟩
  · rw [runAll, runAll, List.foldl_append]
    exact calls_runAll connection after _
  · intro operation
    exact ⟨operation.exists_call_of_sends connection _, operation.perform_of_not_sends connection _⟩

/-- A group stops a read, and the reply that waits goes to the count behind it. -/
theorem exchanges_of_run_groupedRead :
    let connection : Connection := ⟨.default, "http://localhost"⟩
    let waiting := runAll connection .idle [.queue (.body "[]")]
    let groupedRead := ClientOperation.get ((Builder.new "users").whereNested .and id)
    let plainCount := ClientOperation.count (Builder.new "users")
    groupedRead.perform connection waiting =
        (.error (.query Condition.nestedNotSupported), waiting) ∧
      ∃ call : SentRequest, plainCount.perform connection waiting =
        ((Connection.resultOf call.url (some (.body "[]"))).map plainCount.interpret,
          ⟨[], [call]⟩) := by
  have point := exchanges_of_run ⟨.default, "http://localhost"⟩ .idle [.queue (.body "[]")] []
  exact ⟨(point.2.2 _).2 rfl, (point.2.2 _).1 rfl⟩

end ClientStep

end RestQuery

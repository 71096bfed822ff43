import RestQuery.Json.Printer
import RestQuery.Json.Reader
import RestQuery.Service.Exchange

/-!
# Responses

A response is JSON. An object may be an envelope: a `status` other than zero is a failure of the
service, and a `data` member is the result. Anything else is the result itself.
-/

namespace RestQuery

/-- Why a query could not be run. -/
inductive ServiceError where
  | query (error : QueryError)
  | transport (error : TransportError)
  /-- The response is not JSON. -/
  | undecodable (url : String)
  /-- The service answered with a failure status. -/
  | service (url : String) (status : Int64) (message : String)
deriving DecidableEq, Repr

/-- The wording of an error. -/
def ServiceError.message : ServiceError → String
  | query error => error.message
  | transport error => error.describe
  | undecodable url => failureAt url "response is not valid JSON"
  | service url status message =>
      failureAt url ("status " ++ intText status.toInt ++ ": " ++ message)

/-- The status of an envelope; one that is no signed 64-bit integer counts as zero. -/
def statusOf (envelope : Json) : Int64 :=
  match envelope.field? "status" with
  | some (.int value) => if value ≤ Int64.maxValue.toInt then Int64.ofInt value else 0
  | _ => 0

/-- The error message of an envelope: a text as it is, any other value as JSON. -/
def errorMessageOf (envelope : Json) : String :=
  match envelope.field? "error_message" with
  | some (.text message) => message
  | some other => other.render
  | none => ""

/-- The result that a response holds. -/
def decode (url body : String) : Except ServiceError Json :=
  match Json.read? body with
  | none => .error (.undecodable url)
  | some (.object fields) =>
      let envelope := Json.object fields
      if statusOf envelope ≠ 0 then
        .error (.service url (statusOf envelope) (errorMessageOf envelope))
      else .ok ((envelope.field? "data").getD envelope)
  | some other => .ok other

/-- A result as rows: a list as it is, nothing for `null`, and a single row for anything else. -/
def rows : Json → List Json
  | .list items => items
  | .null => []
  | single => [single]

end RestQuery

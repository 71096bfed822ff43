import RestQuery.Json.Value
import RestQuery.Wire.Segments

/-!
# Transports

The client never speaks to a service itself. It hands a request to a transport and gets the text of
a response or a failure. The transport here is a state: replies queued in advance, which requests
take from the front, and the calls made so far. With no reply queued, a request gets an empty
result.
-/

namespace RestQuery

/-- The method of a request. -/
inductive Method where
  | get
  | post
deriving DecidableEq, Repr

def Method.name : Method → String
  | .get => "GET"
  | .post => "POST"

/-- What a request carries besides its address. -/
inductive Payload where
  /-- A query string without a question mark; it may be empty. -/
  | query (text : String)
  | json (value : Json)

/-- A request that has been made. -/
structure SentRequest where
  method : Method
  url : String
  payload : Payload

/-- The address that is asked for, with the query string behind it. -/
def SentRequest.target (call : SentRequest) : String :=
  match call.payload with
  | .query text => withQuery call.url text
  | .json _ => call.url

/-- A reply queued for a request. -/
inductive Reply where
  | body (text : String)
  | failure (message : String)
deriving DecidableEq, Repr

/-- A request that failed. -/
structure TransportError where
  url : String
  message : String
deriving DecidableEq, Repr

/-- The wording of a failure at an address. -/
def failureAt (url reason : String) : String :=
  "url[" ++ url ++ "] error[" ++ reason ++ "]"

def TransportError.describe (error : TransportError) : String :=
  failureAt error.url error.message

/-- The replies that are waiting and the calls made so far, oldest first. -/
structure Transport where
  queue : List Reply
  calls : List SentRequest

namespace Transport

/-- No replies and no calls. -/
def idle : Transport := ⟨[], []⟩

instance : Inhabited Transport := ⟨idle⟩

/-- Queues a reply behind the others. -/
def enqueue (reply : Reply) (transport : Transport) : Transport :=
  { transport with queue := transport.queue ++ [reply] }

/-- The reply to a request when none is queued. -/
def defaultBody : String := "\x7b\"data\":[]\x7d"

/-- Records a call and answers it with the oldest reply. -/
def execute (call : SentRequest) (transport : Transport) :
    Except TransportError String × Transport :=
  let calls := transport.calls ++ [call]
  match transport.queue with
  | [] => (.ok defaultBody, ⟨[], calls⟩)
  | .body text :: rest => (.ok text, ⟨rest, calls⟩)
  | .failure message :: rest => (.error ⟨call.url, message⟩, ⟨rest, calls⟩)

end Transport

end RestQuery

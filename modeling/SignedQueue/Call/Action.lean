import SignedQueue.Call.Operation
import SignedQueue.Client.Basic
/-!
**Actions.** An action is an operation of one client. It makes the message of a request: relative to
the client's endpoint, with the headers that every request needs, and with the caller's own headers,
which go before all others.

* `Action.buildMessage`: the message that the operation builds, at the client's endpoint;
* `Action.prepare`: the message that is signed;
* `Action.failure`: what an interruption means for the caller.
-/

namespace SignedQueue

/-- An operation of a client. -/
structure Action (ρ γ α : Type) where
  operation : Operation ρ γ α
  client : Client
  /-- The id that goes with all requests of the action. -/
  requestId : Option String

namespace Action

variable {ρ γ α : Type}

/-- The action of an operation. It carries the fresh id if the client is configured to generate one.
-/
def ofOperation (client : Client) (operation : Operation ρ γ α) (freshId : String) :
    Action ρ γ α :=
  { operation, client
    requestId := if client.config.generateRequestId then some freshId else none }

/-- The endpoint of an action. -/
def endpoint (action : Action ρ γ α) : String :=
  action.client.config.endpoint

/-- How logs show an action. -/
def describe (action : Action ρ γ α) : String :=
  "Action \x7b def: " ++ action.operation.describe ++ ", endpoint: " ++
    Quoted.quote action.endpoint ++ ", request_id: " ++ Quoted.quoteOption action.requestId ++
    " \x7d"

/-! ### The path -/

/-- Whether a text begins with another one. -/
def startsWith (text start : String) : Bool :=
  start.toList.isPrefixOf text.toList

/-- Whether a path is an address of its own. -/
def isAbsolute (path : String) : Bool :=
  startsWith path "http://" || startsWith path "https://"

/-- What follows an endpoint in an address: nothing, a path or a query. An address at which
something else follows belongs to another endpoint. -/
def relativeTo (endpoint path : String) : Option String :=
  let base := (RequestMessage.trimSlashesEnd endpoint).toList
  if base.isPrefixOf path.toList then
    match path.toList.drop base.length with
    | [] => some ""
    | '/' :: rest => some (String.ofList ('/' :: rest))
    | '?' :: rest => some (String.ofList ('?' :: rest))
    | _ => none
  else none

/-- An address of its own lies outside the endpoint. -/
def foreignPath (path endpoint : String) : CallError :=
  { kind := .invalidArgument
    message :=
      "resource path " ++ Quoted.quote path ++ " doesn't match endpoint " ++ Quoted.quote endpoint }

/-- A path made relative to an endpoint. -/
def relativePath (endpoint path : String) : Except CallError String :=
  if isAbsolute path then
    match relativeTo endpoint path with
    | some relative => .ok relative
    | none => .error (foreignPath path endpoint)
  else .ok path

/-! ### The message -/

/-- An error with the request id of the action, unless it has one. -/
def withId (action : Action ρ γ α) (error : CallError) : CallError :=
  error.orRequestId action.requestId

/-- The message that the operation builds for a request, with the operation's method and at the
client's endpoint, and what the operation notes of the request. -/
def buildMessage (action : Action ρ γ α) (request : ρ) :
    Except CallError (RequestMessage × γ) := do
  let (message, noted) ← (action.operation.build request).mapError action.withId
  let path ← (relativePath action.endpoint message.resourcePath).mapError action.withId
  return (
    { message with
      method := action.operation.method
      endpoint := action.endpoint
      resourcePath := path },
    noted)

/-- The header that gives the version of the service's interface. -/
def versionHeader : String := "x-mns-version"

/-- The version of the service's interface. -/
def version : String := "2015-06-06"

/-- The header that gives the request id of the action. -/
def requestIdHeader : String := "x-mns-user-request-id"

/-- The type of a body, where the operation gives none. -/
def defaultContentType : String := "text/xml;charset=UTF-8"

/-- Headers with those that every request needs. The operation's own date and type of the body stay.
-/
def addHeaders (action : Action ρ γ α) (now : Moment) (headers : HeaderFields) : HeaderFields :=
  let headers := headers.set versionHeader version
  let headers := headers.setDefault "Date" now.date.http
  let headers := headers.setDefault "Content-Type" defaultContentType
  match action.requestId with
  | none => headers
  | some requestId => headers.set requestIdHeader requestId

/-- The message that is signed for a request, and what is noted of the request. The caller's own
headers go before all others. -/
def prepare (action : Action ρ γ α) (now : Moment) (custom : List (String × String)) (request : ρ) :
    Except CallError (RequestMessage × γ) := do
  let (message, noted) ← action.buildMessage request
  return ({ message with headers := (action.addHeaders now message.headers).setAll custom }, noted)

/-! ### The outcome -/

/-- What an interruption means for the caller. An error of this side carries the request id of the
action; an error that the service reports stays as it is. -/
def failure (action : Action ρ γ α) : Interruption → CallError
  | .failed error => if error.isLocal then action.withId error else error
  | .brokeDown said =>
    { kind := .unexpected
      message := said.getD "call panicked"
      requestId := action.requestId
      context := ["action: " ++ action.operation.name] }

end Action

end SignedQueue

import SignedQueue.Text.Cut
import SignedQueue.Http.Exchange
import SignedQueue.Http.HeaderFields
/-!
**Request messages.** A request is put together as a message: a method, the endpoint of the service,
the path of a resource relative to it, header fields and a body. It is signed as a message, and then
becomes the request that travels.

* `RequestMessage.url`: the address, endpoint and path joined by one slash;
* `RequestMessage.resource`: the resource that is signed, the endpoint's own path and the path
  joined by one slash;
* `RequestMessage.toHttp`: the request that travels.
-/

namespace SignedQueue

/-- A request while it is put together. -/
structure RequestMessage where
  method : Method
  /-- The address of the service, empty before the message belongs to one. -/
  endpoint : String := ""
  /-- The path relative to the endpoint, which may carry a query. -/
  resourcePath : String
  headers : HeaderFields := .empty
  body : Option Octets := none
  deriving DecidableEq

namespace RequestMessage

/-! ### Paths -/

/-- A text without the slashes at its end. -/
def trimSlashesEnd (text : String) : String :=
  String.ofList (text.toList.reverse.dropWhile (· = '/')).reverse

/-- A text without the slashes at its beginning. -/
def trimSlashesStart (text : String) : String :=
  String.ofList (text.toList.dropWhile (· = '/'))

/-- Two parts of a path, joined by exactly one slash. -/
def joinPath (base sub : String) : String :=
  trimSlashesEnd base ++ "/" ++ trimSlashesStart sub

/-- The path of an endpoint: what begins with the first slash after its scheme. -/
def endpointPath (endpoint : String) : String :=
  let characters := endpoint.toList
  let rest :=
    match cut "://".toList characters with
    | some (_, after) => after
    | none => characters
  String.ofList (rest.dropWhile (· ≠ '/'))

/-- The address of a request. -/
def url (message : RequestMessage) : String :=
  joinPath message.endpoint message.resourcePath

/-- The resource that is signed. -/
def resource (message : RequestMessage) : String :=
  joinPath (endpointPath message.endpoint) message.resourcePath

/-! ### Headers and body -/

/-- The value of a header in any case. -/
def header? (message : RequestMessage) (name : String) : Option String :=
  message.headers.get? name

/-- The message with a header set. -/
def setHeader (message : RequestMessage) (name value : String) : RequestMessage :=
  { message with headers := message.headers.set name value }

/-- The number of octets of the body. -/
def contentLength (message : RequestMessage) : Nat :=
  (message.body.map List.length).getD 0

/-! ### Travelling -/

/-- The request that travels. Its address is checked first, then its headers one after another. -/
def toHttp (message : RequestMessage) : Except HttpFault HttpRequest := do
  let target ← (Target.parse message.url).mapError .badTarget
  let headers ← message.headers.entries.mapM HttpHeader.ofEntry
  return ⟨message.method, target, HttpHeader.table headers, message.body.getD []⟩

end RequestMessage

end SignedQueue

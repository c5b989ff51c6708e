import SignedQueue.CallError
import SignedQueue.Text.Ascii
import SignedQueue.Http.Status
import SignedQueue.Http.Target
import SignedQueue.Http.Token
/-!
**What travels.** A transport takes a request and gives back a response.

* `HttpRequest`: a request as the transport takes it, with names of headers in lower case;
* `HttpHeader.table`: the table of its headers, which has one header of each name;
* `Response`: what the transport gives back;
* `Response.header?`, `Response.bodyText`: a header and the body of a response as text;
* `HttpFault`: why a request cannot travel.
-/

namespace SignedQueue

/-! ### Requests -/

/-- Why a request cannot travel. -/
inductive HttpFault where
  | badTarget (fault : Target.Fault)
  | badMethod
  | badHeaderName
  | badHeaderValue
  deriving Repr, DecidableEq

/-- The wording of a fault. -/
def HttpFault.message : HttpFault → String
  | .badTarget fault => fault.message
  | .badMethod => "invalid HTTP method"
  | .badHeaderName => "invalid HTTP header name"
  | .badHeaderValue => "failed to parse header value"

/-- A fault as an error of the call: an argument is refused. -/
def HttpFault.toCallError (fault : HttpFault) : CallError :=
  .ofFault .invalidArgument fault.message

/-- A header of a request that travels. -/
structure HttpHeader where
  /-- The name in lower case. -/
  name : String
  value : String
  /-- Whether the value may be shown to nobody. -/
  sensitive : Bool
  deriving Repr, DecidableEq

/-- The header that a field of a request becomes. -/
def HttpHeader.ofEntry (entry : String × String) : Except HttpFault HttpHeader := do
  let (name, value) := entry
  if !Http.isHeaderName name then throw .badHeaderName
  if !Http.isHeaderValue value then throw .badHeaderValue
  let name := Ascii.lower name
  return ⟨name, value, name = "authorization"⟩

/-- A table of headers with a further one put into it. A header of the same name gives way to it. -/
def HttpHeader.put (table : List HttpHeader) (header : HttpHeader) : List HttpHeader :=
  (table.filter fun other => other.name ≠ header.name) ++ [header]

/-- The table of some headers that are put into it one after another. -/
def HttpHeader.table (headers : List HttpHeader) : List HttpHeader :=
  headers.foldl put []

/-- A request as the transport takes it. -/
structure HttpRequest where
  method : Method
  target : Target
  headers : List HttpHeader
  body : Octets
  deriving DecidableEq

/-! ### Responses -/

/-- What the transport gives back. -/
structure Response where
  status : Status
  /-- The headers in the order they came in. -/
  headers : List (String × Octets)
  body : Octets
  deriving Repr, DecidableEq

namespace Response

/-- The first header with a name in any case, if its value is a visible text. -/
def header? (response : Response) (name : String) : Option String :=
  (response.headers.find? fun entry => Ascii.sameIgnoringCase entry.1 name).bind
    fun entry => Http.visibleText entry.2

/-- The body as a text. -/
def bodyText (response : Response) : Except CallError String :=
  (Utf8.decode response.body).mapError fun fault =>
    { kind := .responseUnparsable
      message := "response body is not valid utf-8"
      source := some fault.message }

end Response

end SignedQueue

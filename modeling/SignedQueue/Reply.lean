import SignedQueue.Envelope.Basic
import SignedQueue.Http.Exchange
import SignedQueue.Markup.Tree
/-!
**Reading a response.** A response that reports a success may carry a document, and one that reports
a failure carries an error envelope. What cannot be read becomes an error that shows the status and
how the body begins.

* `Response.document`: the document of a response;
* `Response.refusal`: the failure that a response reports.
-/

namespace SignedQueue

open Markup

namespace Response

/-- The most characters of a body that an error shows. -/
def shownLength : Nat := 200

/-- The line of context that gives the status. -/
def statusLine (response : Response) : String :=
  "status: " ++ response.status.text

/-- The line of context that gives the beginning of the body. -/
def bodyLine (response : Response) : String :=
  "body: " ++ String.ofList ((Utf8.lossyChars response.body).take shownLength)

/-- An error of a body that cannot be read. -/
def unreadable (response : Response) (error : CallError) : CallError :=
  (error.withContext response.statusLine).withContext response.bodyLine

/-- The document of a response. -/
def document (response : Response) : Except CallError Element :=
  (Element.parse response.body).mapError fun fault => response.unreadable fault.toCallError

/-- The header that gives the id of the request at the service. -/
def requestIdHeader : String := "x-mns-request-id"

/-- The error that an envelope reports. The header names the request if the envelope does not. -/
def refusalOf (response : Response) (envelope : ErrorEnvelope) : CallError :=
  (envelope.toCallError.orRequestId (response.header? requestIdHeader)).withContext
    response.statusLine

/-- The failure that a response reports. -/
def refusal (response : Response) : Interruption :=
  match ErrorEnvelope.read response.body with
  | .ok envelope => .failed (response.refusalOf envelope)
  | .error (.failed error) => .failed (response.unreadable error)
  | .error (.brokeDown said) => .brokeDown said

end Response

end SignedQueue

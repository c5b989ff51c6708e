import SignedQueue.Attempt
import SignedQueue.Envelope.Reader
/-!
**The error envelope.** A service that refuses a request says why in a small document with a code, a
message, the id of the request and the host that served it.

* `ErrorEnvelope.decode`: the envelope of a body;
* `ErrorEnvelope.toCallError`: the envelope as an error that the service reports;
* `ErrorEnvelope.read`: the envelope of a body, or the error of a call that cannot read it.
-/

namespace SignedQueue

/-- What a service says about a request that it refuses. -/
structure ErrorEnvelope where
  code : String
  /-- The message, empty where the service gives none. -/
  message : String
  requestId : Option String
  hostId : Option String
  deriving Repr, DecidableEq

namespace ErrorEnvelope

open Envelope

/-- The envelope of the fields of a document. Only the code has to be there. -/
def ofFields (fields : Fields) : Except Envelope.Fault ErrorEnvelope :=
  match fields.lookup .code with
  | some (some code) =>
    .ok
      { code
        message := ((fields.lookup .message).join).getD ""
        requestId := (fields.lookup .requestId).join
        hostId := (fields.lookup .hostId).join }
  | _ => .error (.missingField .code)

/-- The envelope of a body, which has to be a text. -/
def decode (body : Octets) : Except Envelope.Fault ErrorEnvelope := do
  let _ ← (Utf8.chars body).mapError .notText
  ofFields (← readFields body)

/-- The envelope as an error that the service reports. -/
def toCallError (envelope : ErrorEnvelope) : CallError :=
  { CallError.reported envelope.code envelope.message with
    requestId := envelope.requestId
    hostId := envelope.hostId }

/-- What a fault means for the call. -/
def interruption (fault : Envelope.Fault) : Interruption :=
  match fault with
  | .partedText => .brokeDown (some fault.message)
  | .notText _ =>
    .failed
      { kind := .responseUnparsable
        message := "error body is not valid utf-8"
        source := some fault.message }
  | _ =>
    .failed
      { kind := .responseUnparsable
        message := "failed to decode error envelope"
        source := some fault.message }

/-- The envelope of a body. -/
def read (body : Octets) : Attempt ErrorEnvelope :=
  (decode body).mapError interruption

end ErrorEnvelope

end SignedQueue

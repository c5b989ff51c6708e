import SignedQueue.Markup.Element
/-!
**Bodies of messages in a queue.** A body is any octets, and travels in a document as a text: in
Base64, or as it is if it is a text.

* `BodyEncoding.encode`, `BodyEncoding.decode`: the text of a body, and the body of a text.
-/

namespace SignedQueue.Queue

/-- How bodies travel. -/
inductive BodyEncoding where
  /-- In Base64, which takes any octets. -/
  | base64
  /-- As they are, which takes texts only. -/
  | raw
  deriving Repr, DecidableEq, Inhabited

namespace BodyEncoding

/-- The text of a body. -/
def encode (encoding : BodyEncoding) (body : Octets) : Except CallError String :=
  match encoding with
  | .base64 => .ok (Base64.encode body)
  | .raw =>
    (Utf8.decode body).mapError fun fault =>
      { kind := .invalidArgument
        message := "raw message body must be valid utf-8"
        source := some fault.message }

/-- The body of a text. -/
def decode (encoding : BodyEncoding) (text : String) : Except CallError Octets :=
  match encoding with
  | .base64 =>
    (Markup.Element.decodeBase64 text).mapError Markup.Element.Shortfall.toCallError
  | .raw => .ok (Utf8.encode text)

/-- The name of an encoding. -/
def name : BodyEncoding → String
  | .base64 => "Base64"
  | .raw => "Raw"

end BodyEncoding

end SignedQueue.Queue

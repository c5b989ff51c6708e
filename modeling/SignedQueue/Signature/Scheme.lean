import SignedQueue.Attempt
import SignedQueue.Credential
import SignedQueue.Log
import SignedQueue.Digest.Hmac
import SignedQueue.Text.Base64
import SignedQueue.Request.Canonical
/-!
**Signature schemes.** A scheme changes a message so that the service can tell who sent it. The
service's own scheme signs the canonical text of a message with HMAC-SHA1 under the secret key.

* `Signing`: what becomes of a message that is signed;
* `Scheme.headerSignature`: the service's own scheme, which sets the header `authorization`, and the
  header `security-token` if the credential has a session token.
-/

namespace SignedQueue

/-- What becomes of a message that is signed. -/
structure Signing where
  /-- The message afterwards, which a scheme that fails may have changed. -/
  message : RequestMessage
  result : Attempt Unit
  log : List LogLine

/-- A way to sign messages. -/
structure Scheme where
  /-- How logs show the scheme. -/
  shown : String
  sign : Credential → RequestMessage → Signing

namespace Scheme

/-- The header that carries the signature. -/
def authorizationHeader : String := "authorization"

/-- The header that carries the session token. -/
def tokenHeader : String := "security-token"

/-- The signature of a text under a secret key. -/
def signatureOf (secret text : String) : String :=
  Base64.encode (Hmac.sha1 (Utf8.encode secret) (Utf8.encode text))

/-- The value of the header that carries the signature of a text. -/
def authorization (credential : Credential) (text : String) : String :=
  "MNS " ++ credential.accessKeyId ++ ":" ++ signatureOf credential.accessKeySecret text

/-- A message with the session token, if there is one. -/
def setToken (credential : Credential) (message : RequestMessage) : RequestMessage :=
  match credential.sessionToken with
  | none => message
  | some token => message.setHeader tokenHeader token

/-- The signed form of a message. -/
def signed (credential : Credential) (message : RequestMessage) : RequestMessage :=
  (setToken credential message).setHeader authorizationHeader
    (authorization credential (Canonical.stringToSign message))

/-- The service's own scheme. It never fails. -/
def headerSignature : Scheme where
  shown := "RequestSigner"
  sign credential message :=
    { message := signed credential message
      result := .ok ()
      log :=
        [⟨.debug, "calculated string to sign: " ++ Quoted.quote (Canonical.stringToSign message)⟩] }

end Scheme

end SignedQueue

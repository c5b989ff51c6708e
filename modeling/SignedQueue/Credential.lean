import SignedQueue.Text.Redacted
import SignedQueue.Time.Moment
/-!
**Credentials.** A credential is a pair of keys, of which one is secret, possibly a session token,
and possibly a moment at which it expires.

* `Credential.isValid`: whether a credential may still be used;
* `Credential.sessionToken`: the token that goes with a request;
* `Credential.describe`: what logs show of a credential, with its secrets redacted.
-/

namespace SignedQueue

/-- What a request is signed with. -/
structure Credential where
  accessKeyId : String
  accessKeySecret : String
  securityToken : Option String := none
  /-- The moment at which the credential expires, if it does. -/
  expiresAt : Option Moment := none
  deriving Repr, DecidableEq

namespace Credential

/-- The seconds before its expiry in which a credential is used no more. -/
def expiryMargin : Int := 120

/-- Whether a credential may be used: both keys are there, and it does not expire soon. -/
def isValid (credential : Credential) (now : Moment) : Bool :=
  credential.accessKeyId ≠ "" && credential.accessKeySecret ≠ "" &&
    credential.expiresAt.all fun expiry => now.later expiryMargin < expiry

/-- Whether there is a credential that may be used. -/
def isUsable (credential : Option Credential) (now : Moment) : Bool :=
  credential.any (·.isValid now)

/-- The session token; an empty one counts as absent. -/
def sessionToken (credential : Credential) : Option String :=
  credential.securityToken.filter (· ≠ "")

/-- What logs show of a credential. -/
def describe (credential : Credential) : String :=
  let expiry :=
    match credential.expiresAt with
    | none => "None"
    | some moment => "Some(" ++ moment.date.iso ++ ")"
  "Credential \x7b access_key_id: " ++ Redacted.redact (some credential.accessKeyId) ++
    ", access_key_secret: " ++ Redacted.redact (some credential.accessKeySecret) ++
    ", security_token: " ++ Redacted.redact credential.securityToken ++
    ", expires_in: " ++ expiry ++ " \x7d"

end Credential

end SignedQueue

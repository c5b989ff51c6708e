import SignedQueue.Attempt
import SignedQueue.Credential
/-!
**Where credentials come from.** A provider is asked for a credential whenever the one at hand may
no longer be used. It gives one, or none, or it fails.

* `Provider`: how a provider shows itself in logs, and its answers;
* `Provider.fixed`: the provider that always gives the same credential.
-/

namespace SignedQueue

/-- A source of credentials. -/
structure Provider where
  /-- How logs show the provider. -/
  shown : String
  /-- The answer to each question, counted from 0. -/
  answer : Nat → Attempt (Option Credential)

/-- The provider that always gives the same credential. -/
def Provider.fixed (credential : Credential) : Provider where
  shown := "StaticCredentialProvider \x7b credential: " ++ credential.describe ++ " \x7d"
  answer _ := .ok (some credential)

end SignedQueue

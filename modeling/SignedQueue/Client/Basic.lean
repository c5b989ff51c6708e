import SignedQueue.Client.Config
import SignedQueue.Signature.Signer
/-!
**Clients.** A client holds what all calls to one endpoint share: the context, the configuration and
the signer. A fixed pair of keys in the configuration goes before any provider; with neither,
requests go out unsigned.

* `Client.ofConfig`: a client with a checked endpoint;
* `Client.withProvider`, `Client.withSigner`: a client that signs otherwise.
-/

namespace SignedQueue

/-- What all calls to one endpoint share. -/
structure Client where
  context : Context
  config : Config
  signer : Option Signer

namespace Client

/-- The signer of a fixed credential. -/
def fixedSigner (credential : Credential) : Signer :=
  ⟨.fixed credential, .headerSignature⟩

/-- The client of a configuration, if the endpoint is an absolute address. -/
def ofConfig (context : Context) (config : Config) : Except CallError Client := do
  config.validate
  return ⟨context, config, config.staticCredential.map fixedSigner⟩

/-- The client with its credentials taken from a provider. A fixed pair of keys goes before it, and
then a warning is logged. -/
def withProvider (client : Client) (provider : Provider) : Client × List LogLine :=
  if client.config.staticKeyPair.isSome then
    (client,
      [⟨.warning,
        "static key pair configured, ignoring credential provider " ++ provider.shown⟩])
  else ({ client with signer := some ⟨provider, .headerSignature⟩ }, [])

/-- The client with another signer. -/
def withSigner (client : Client) (signer : Signer) : Client :=
  { client with signer := some signer }

end Client

end SignedQueue

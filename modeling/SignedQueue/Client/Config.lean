import SignedQueue.Client.Context
import SignedQueue.Credential
import SignedQueue.Http.Target
import SignedQueue.Text.Quoted
import SignedQueue.Time.Span
/-!
**Configuration.** A client is configured by the endpoint of the service, possibly a fixed pair of
keys, and how long it waits.

* `Config.fromEnvironment`: a configuration with what is unset read from environment variables;
* `Config.staticCredential`: the credential of the fixed pair of keys;
* `Config.validate`: whether the endpoint is an absolute address.
-/

namespace SignedQueue

/-- The configuration of a client. -/
structure Config where
  endpoint : String := ""
  accessKeyId : Option String := none
  accessKeySecret : Option String := none
  securityToken : Option String := none
  /-- How long a response may take, and how long a caller waits for it. -/
  socketTimeout : Span := Span.ofSeconds 33
  connectionTimeout : Span := Span.ofSeconds 30
  /-- Whether each operation gets a request id that goes with all of its requests. -/
  generateRequestId : Bool := false
  deriving Repr, DecidableEq

namespace Config

/-! ### Reading the environment -/

/-- The variable that holds the endpoint. -/
def endpointVariable : String := "ALIBABA_CLOUD_MNS_ENDPOINT"

/-- The variable that holds the id of the pair of keys. -/
def keyIdVariable : String := "ALIBABA_CLOUD_ACCESS_KEY_ID"

/-- The variable that holds the secret of the pair of keys. -/
def keySecretVariable : String := "ALIBABA_CLOUD_ACCESS_KEY_SECRET"

/-- The variable that holds the session token. -/
def tokenVariable : String := "ALIBABA_CLOUD_SECURITY_TOKEN"

/-- The configuration with what is unset read from the environment. -/
def fromEnvironment (config : Config) (environment : Environment) : Config :=
  { config with
    endpoint :=
      if config.endpoint = "" then (environment.lookup endpointVariable).getD config.endpoint
      else config.endpoint
    accessKeyId := config.accessKeyId.or (environment.lookup keyIdVariable)
    accessKeySecret := config.accessKeySecret.or (environment.lookup keySecretVariable)
    securityToken := config.securityToken.or (environment.lookup tokenVariable) }

/-! ### Keys -/

/-- The fixed pair of keys, if both are configured. -/
def staticKeyPair (config : Config) : Option (String × String) :=
  match config.accessKeyId, config.accessKeySecret with
  | some id, some secret => some (id, secret)
  | _, _ => none

/-- The credential of the fixed pair of keys, with the session token if one is configured. -/
def staticCredential (config : Config) : Option Credential :=
  config.staticKeyPair.map fun (id, secret) =>
    { accessKeyId := id, accessKeySecret := secret, securityToken := config.securityToken }

/-! ### Checking the endpoint -/

/-- Checks that the endpoint is an absolute address of the web. -/
def validate (config : Config) : Except CallError Unit :=
  match Target.parse config.endpoint with
  | .error fault =>
    .error
      { kind := .configInvalid
        message := "endpoint " ++ Quoted.quote config.endpoint ++ " is not a valid url"
        source := some fault.message }
  | .ok target =>
    if (target.scheme = some "http" ∨ target.scheme = some "https") ∧ target.authority.isSome then
      .ok ()
    else
      .error
        { kind := .configInvalid
          message :=
            "endpoint " ++ Quoted.quote config.endpoint ++
              " must be an absolute http or https url" }

end Config

end SignedQueue

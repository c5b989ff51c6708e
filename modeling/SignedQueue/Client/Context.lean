import SignedQueue.CallError
import SignedQueue.Text.Utf8
/-!
**What surrounds a call.** A call needs a transport that carries its request and a runtime that
drives it, and the configuration may be read from environment variables. Each of them may be
missing.

* `Environment.lookup`: the value of an environment variable;
* `Context.findRuntime`: the runtime that drives calls, or the error that there is none.
-/

namespace SignedQueue

/-- Where environment variables are read. -/
inductive Environment where
  | absent
  | fixed (entries : List (String × String))
  /-- The variables of the process, whose values are any octets. -/
  | process (entries : List (String × Octets))
  deriving Repr, DecidableEq

/-- The value of a variable. A value that is no text counts as absent. -/
def Environment.lookup (environment : Environment) (name : String) : Option String :=
  match environment with
  | .absent => none
  | .fixed entries => entries.lookup name
  | .process entries => (entries.lookup name).bind fun value => (Utf8.decode value).toOption

/-- What surrounds the calls of a client. -/
structure Context where
  transport : Bool := false
  environment : Environment := .absent
  /-- Whether there is a runtime of its own. -/
  runtime : Bool := false
  deriving Repr, DecidableEq

namespace Context

/-- No runtime is configured, and the caller runs in none. -/
def noRuntime : CallError :=
  { kind := .configInvalid
    message := "no tokio runtime configured and none is running"
    source := some
      "there is no reactor running, must be called from the context of a Tokio 1.x runtime" }

/-- No transport is configured. -/
def noTransport : CallError :=
  { kind := .transport, message := "HTTP sending not supported: no HTTP client configured" }

/-- Whether calls can be driven: by the runtime of the context, or by the one that the caller runs
in. -/
def findRuntime (context : Context) (insideRuntime : Bool) : Except CallError Unit :=
  if context.runtime || insideRuntime then .ok () else .error noRuntime

/-- Whether requests can be sent. -/
def findTransport (context : Context) : Except CallError Unit :=
  if context.transport then .ok () else .error noTransport

/-- How logs show a context without a transport and an environment. -/
def describe (context : Context) : String :=
  "Context \x7b http: NoopHttpSend, env: NoopEnv, runtime: " ++ toString context.runtime ++ " \x7d"

end Context

end SignedQueue

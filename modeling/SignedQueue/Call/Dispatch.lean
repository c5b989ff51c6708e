import SignedQueue.Call.Completion
import SignedQueue.Call.Flight
/-!
**Dispatched calls.** A dispatched call is a flight together with the completion that its handle
shows. The flight's outcome completes the call, unless it has been cancelled.

* `Action.dispatch`: sends a request and hands out the call;
* `Dispatched.answer`, `Dispatched.cancel`: what happens to a call that is under way;
* `Action.execute`, `Action.call`: sends a request and waits for the outcome.
-/

namespace SignedQueue

/-- A call that has been handed out. -/
structure Dispatched (α : Type) where
  flight : Flight α
  completion : Completion α

namespace Dispatched

variable {α : Type}

/-- Completes a call whose flight has ended. -/
def settle (call : Dispatched α) : Dispatched α :=
  match call.flight.outcome? with
  | none => call
  | some outcome => { call with completion := (call.completion.complete outcome).1 }

/-- An answer arrives. -/
def answer (call : Dispatched α) (answer : Attempt Response) : Dispatched α :=
  { call with flight := call.flight.land answer }.settle

/-- Cancels a call, and gives the attempt to do so. -/
def cancel (call : Dispatched α) : Dispatched α × Finisher α :=
  let ended := call.completion.cancel
  let flight := if ended.1.aborted then call.flight.abort else call.flight
  (settle ⟨flight, ended.1⟩, ended.2)

end Dispatched

namespace Action

variable {ρ γ α : Type}

/-- Sends a request and hands out the call. An error that keeps the request on the ground is given
at once and never completes a call. -/
def dispatch (action : Action ρ γ α) (now : Moment) (insideRuntime callback : Bool)
    (custom : List (String × String)) (request : ρ) (cache : CredentialCache) :
    Except CallError (CredentialCache × Dispatched α) := do
  let flight ← action.takeOff now insideRuntime custom request
  let launched := flight.launch now cache
  return (launched.1, Dispatched.settle ⟨launched.2, .pending action.requestId callback true⟩)

/-- What a caller gets who waits for the outcome of a request. -/
structure Execution (α : Type) where
  cache : CredentialCache
  /-- What has been handed to the transport. -/
  sent : List HttpRequest
  result : Outcome α

/-- Sends a request, lets the answer arrive if there is one, and reads the outcome. Without an
answer the transport never ends the exchange. -/
def exchange (action : Action ρ γ α) (now : Moment) (insideRuntime : Bool)
    (custom : List (String × String)) (answer : Option (Attempt Response)) (request : ρ)
    (cache : CredentialCache) (reader : Completion α → Outcome α) : Execution α :=
  match action.dispatch now insideRuntime false custom request cache with
  | .error error => { cache, sent := [], result := .error error }
  | .ok (cache, call) =>
    let ended :=
      match answer with
      | none => call
      | some answer => call.answer answer
    { cache, sent := ended.flight.sent, result := reader ended.completion }

/-- Sends a request and blocks until the outcome is there, as long as the configuration says. -/
def execute (action : Action ρ γ α) (now : Moment) (insideRuntime : Bool)
    (custom : List (String × String)) (answer : Option (Attempt Response)) (request : ρ)
    (cache : CredentialCache) : Execution α :=
  action.exchange now insideRuntime custom answer request cache fun completion =>
    completion.get action.client.config.socketTimeout

/-- Sends a request from inside a runtime and waits for the outcome without blocking. -/
def call (action : Action ρ γ α) (now : Moment) (answer : Option (Attempt Response)) (request : ρ)
    (cache : CredentialCache) : Execution α :=
  action.exchange now true [] answer request cache fun completion =>
    completion.wait action.client.config.socketTimeout

end Action

end SignedQueue

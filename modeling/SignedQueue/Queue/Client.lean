import SignedQueue.Call.Dispatch
import SignedQueue.Call.Traffic
import SignedQueue.Queue.Request
/-!
**Queue clients.** A queue client offers every operation on one client. Each operation has a request
id of its own, which goes with all of its requests.

* `QueueClient.action`: an operation of a queue client;
* `QueueClient.execute`: sends any request and waits for the outcome;
* `QueueClient.takeOff`: the flight of any request.
-/

namespace SignedQueue.Queue

/-- Every operation on one client. -/
structure QueueClient where
  client : Client
  /-- The id that was made for the operation with a name. -/
  freshId : String → String

namespace QueueClient

/-- An operation of a queue client. -/
def action {ρ γ α : Type} (queues : QueueClient) (operation : Operation ρ γ α) : Action ρ γ α :=
  .ofOperation queues.client operation (queues.freshId operation.name)

/-- The flight of a request. -/
def takeOff (queues : QueueClient) (now : Moment) (insideRuntime : Bool)
    (custom : List (String × String)) (request : QueueRequest) :
    Except CallError (Flight QueueValue) :=
  request.visit fun operation request _ wrap =>
    ((queues.action operation).takeOff now insideRuntime custom request).map (Flight.map wrap)

/-- Sends a request and blocks until the outcome is there. -/
def execute (queues : QueueClient) (now : Moment) (insideRuntime : Bool)
    (custom : List (String × String)) (answer : Option (Attempt Response)) (request : QueueRequest)
    (cache : CredentialCache) : Action.Execution QueueValue :=
  request.visit fun operation request _ wrap =>
    let execution :=
      (queues.action operation).execute now insideRuntime custom answer request cache
    { cache := execution.cache
      sent := execution.sent
      result := execution.result.map wrap }

end QueueClient

end SignedQueue.Queue

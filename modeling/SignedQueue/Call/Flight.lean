import SignedQueue.Call.Action
/-!
**Flights.** After its message has been made, a call signs it, sends the request and reads what
comes back. A call whose request cannot be signed or sent ends without having sent anything.

* `Flight`: a call on its way, with the steps between which other calls may go on;
* `Action.takeOff`: the flight of a request, or the error that keeps it on the ground;
* `Flight.launch`: all steps up to the one that needs an answer, which `Flight.launch_waits_or_ends`
  says it reaches;
* `Flight.land`: the answer arrives;
* `Flight.run`: what becomes of a call among others.
-/

namespace SignedQueue

/-- How far a call has come: what it does next, that it waits for an answer, or that it has
ended. -/
inductive Flight.Stage (α : Type) where
  | signing (call : SignCall)
  | sending (message : RequestMessage)
  | waiting
  | ended (outcome : Except CallError α)

/-- A call on its way. -/
structure Flight (α : Type) where
  context : Context
  /-- What a response means. -/
  read : Response → Attempt α
  /-- What an interruption means for the caller. -/
  failure : Interruption → CallError
  /-- The outcome of a call whose exchange is aborted. -/
  abandoned : CallError
  /-- What has been handed to the transport. -/
  sent : List HttpRequest := []
  stage : Flight.Stage α

namespace Flight

variable {α : Type}

/-- The outcome of a call that has ended. -/
def outcome? (flight : Flight α) : Option (Except CallError α) :=
  match flight.stage with
  | .ended outcome => some outcome
  | _ => none

/-- The flight after its exchange has given a result. -/
def finish (flight : Flight α) (result : Attempt α) : Flight α :=
  { flight with stage := .ended (result.mapError flight.failure) }

/-- The request of a message, if it can be sent. -/
def request (flight : Flight α) (message : RequestMessage) : Except CallError HttpRequest := do
  let request ← message.toHttp.mapError HttpFault.toCallError
  flight.context.findTransport
  return request

/-- Hands the request of a message to the transport. -/
def send (flight : Flight α) (message : RequestMessage) : Flight α :=
  match flight.request message with
  | .error error => flight.finish (.error (.failed error))
  | .ok request => { flight with sent := flight.sent ++ [request], stage := .waiting }

/-- The flight after its message has been signed further. -/
def afterSigning (flight : Flight α) (call : SignCall) : Flight α :=
  match call.result? with
  | none => { flight with stage := .signing call }
  | some (.ok ()) => { flight with stage := .sending call.message }
  | some (.error reason) => flight.finish (.error reason)

/-- The next step of a call that needs no answer. Between two steps other calls may go on. -/
def step (now : Moment) (cache : CredentialCache) (flight : Flight α) :
    CredentialCache × Flight α :=
  match flight.stage with
  | .signing call =>
    let next := call.step now cache
    (next.1, flight.afterSigning next.2)
  | .sending message => (cache, flight.send message)
  | .waiting => (cache, flight)
  | .ended _ => (cache, flight)

/-- Some steps of a call that nothing comes between. -/
def steps (now : Moment) : Nat → CredentialCache → Flight α → CredentialCache × Flight α
  | 0, cache, flight => (cache, flight)
  | count + 1, cache, flight =>
    let next := flight.step now cache
    steps now count next.1 next.2

/-- The most steps that a call still takes before it needs an answer. -/
def Stage.remaining : Stage α → Nat
  | .signing call => call.stage.remaining + 2
  | .sending _ => 1
  | .waiting => 0
  | .ended _ => 0

/-- All steps up to the one that needs an answer, while no other call goes on. -/
def launch (now : Moment) (cache : CredentialCache) (flight : Flight α) :
    CredentialCache × Flight α :=
  flight.steps now flight.stage.remaining cache

theorem remaining_send (flight : Flight α) (message : RequestMessage) :
    (flight.send message).stage.remaining = 0 := by
  unfold send
  split <;> simp [finish, Stage.remaining]

theorem remaining_afterSigning (flight : Flight α) (call : SignCall) :
    (flight.afterSigning call).stage.remaining ≤
      if call.stage.remaining = 0 then 1 else call.stage.remaining + 2 := by
  unfold afterSigning
  split
  · rename_i unfinished
    have more : call.stage.remaining ≠ 0 := fun none => by
      obtain ⟨result, ended⟩ := SignCall.result?_of_remaining none
      simp [ended] at unfinished
    simp [Stage.remaining, more]
  · simp only [Stage.remaining]
    split <;> omega
  · simp [finish, Stage.remaining]

theorem remaining_step (now : Moment) (cache : CredentialCache) (flight : Flight α) :
    (flight.step now cache).2.stage.remaining ≤ flight.stage.remaining - 1 := by
  unfold step
  split
  · rename_i call stage
    have fewer := SignCall.remaining_step now cache call
    have after := remaining_afterSigning flight (call.step now cache).2
    rw [stage]
    change (flight.afterSigning _).stage.remaining ≤ call.stage.remaining + 2 - 1
    split at after <;> omega
  · simp [remaining_send]
  · simp_all [Stage.remaining]
  · simp_all [Stage.remaining]

theorem remaining_steps (now : Moment) (count : Nat) (cache : CredentialCache) (flight : Flight α) :
    (flight.steps now count cache).2.stage.remaining ≤ flight.stage.remaining - count := by
  induction count generalizing cache flight with
  | zero => simp [steps]
  | succ count ih =>
    have first := remaining_step now cache flight
    have others := ih (flight.step now cache).1 (flight.step now cache).2
    simp only [steps]
    omega

/-- A call that has been launched waits for an answer or has ended. -/
theorem launch_waits_or_ends (now : Moment) (cache : CredentialCache) (flight : Flight α) :
    (flight.launch now cache).2.stage = .waiting ∨
      ∃ outcome, (flight.launch now cache).2.stage = .ended outcome := by
  have bound := remaining_steps now flight.stage.remaining cache flight
  have none : (flight.launch now cache).2.stage.remaining = 0 := by
    simp only [launch]
    omega
  cases stage : (flight.launch now cache).2.stage <;> simp_all [Stage.remaining]

/-- An answer arrives: a response, or the reason why there is none. -/
def land (answer : Attempt Response) (flight : Flight α) : Flight α :=
  match flight.stage with
  | .waiting => flight.finish (answer.bind flight.read)
  | _ => flight

/-- The exchange is aborted. -/
def abort (flight : Flight α) : Flight α :=
  match flight.outcome? with
  | some _ => flight
  | none => { flight with stage := .ended (.error flight.abandoned) }

/-! ### A call among others -/

/-- What happens to a call on its way. -/
inductive Event where
  /-- It takes its next step, at an instant at which the clones of its signer share this. -/
  | advance (now : Moment) (cache : CredentialCache)
  | land (answer : Attempt Response)
  | abort

/-- The flight after something has happened to it. -/
def react (flight : Flight α) : Event → Flight α
  | .advance now cache => (flight.step now cache).2
  | .land answer => flight.land answer
  | .abort => flight.abort

/-- The flight after some events, between which other calls may have changed what is shared. -/
def run (flight : Flight α) (events : List Event) : Flight α :=
  events.foldl react flight

end Flight

namespace Action

variable {ρ γ α : Type}

/-- The outcome of a call whose exchange is aborted. -/
def abandoned (action : Action ρ γ α) : CallError :=
  { kind := .cancelled
    message := "call was cancelled"
    requestId := action.requestId
    context := ["action: " ++ action.operation.name] }

/-- The first stage of a call. Without a signer the message is sent as it is. -/
def firstStage (action : Action ρ γ α) (message : RequestMessage) : Flight.Stage α :=
  match action.client.signer with
  | none => .sending message
  | some signer => .signing (signer.call message)

/-- The flight of a request, or the error that keeps it on the ground: a message that cannot be
made, or no runtime. What was noted of the request goes with the flight. -/
def takeOff (action : Action ρ γ α) (now : Moment) (insideRuntime : Bool)
    (custom : List (String × String)) (request : ρ) : Except CallError (Flight α) := do
  let (message, noted) ← action.prepare now custom request
  (action.client.context.findRuntime insideRuntime).mapError action.withId
  return {
    context := action.client.context
    read := action.operation.readReply noted
    failure := action.failure
    abandoned := action.abandoned
    stage := action.firstStage message }

end Action

end SignedQueue

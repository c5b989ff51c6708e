import Mathlib
import SignedQueue.Proofs.Departure
import SignedQueue.Proofs.SigningSteps
/-!
**The course of a flight.** What a call comes to is fixed by its message as it was signed and by the
answer of the transport: the first of signing, sending and reading that goes wrong, or else what was
read. A flight never leaves this course, whatever the calls beside it do to the credential that they
share, unless its exchange is aborted.

* `SignCall.after`, `Client.signed`: what has become of signing a message after some instants;
* `Action.course`: what a call comes to;
* `Flight.Handed`: what a flight has handed over to the transport;
* `Flight.Follows`: how far along its course a flight is;
* `Flight.Follows.step`, `Flight.Follows.land`, `Flight.Follows.abort`: each event keeps it there.
-/

namespace SignedQueue

/-- An instant at which a call takes a step, and what the clones of its signer share then. -/
abbrev Instant := Moment × CredentialCache

/-! ### Signing -/

namespace SignCall

variable {call : SignCall} {result : Attempt Unit}

/-- A call after a step at each of some instants. -/
def after (call : SignCall) (instants : List Instant) : SignCall :=
  instants.foldl (fun call instant => (call.step instant.1 instant.2).2) call

/-- What a call has made of its message, if it has ended. -/
def signed? (call : SignCall) : Option (Attempt RequestMessage) :=
  call.result?.map fun result => result.map fun _ => call.message

theorem after_concat (call : SignCall) (instants : List Instant) (now : Moment)
    (cache : CredentialCache) :
    call.after (instants ++ [(now, cache)]) = ((call.after instants).step now cache).2 := by
  rw [after, List.foldl_append, List.foldl_cons, List.foldl_nil, after]

theorem after_of_result (ended : call.result? = some result) (instants : List Instant) :
    call.after instants = call := by
  induction instants with
  | nil => rfl
  | cons instant rest ih =>
    -- a call that has ended takes no step at the first instant, nor at the rest
    rw [after, List.foldl_cons, step_of_result ended]
    exact ih

theorem exists_result_of_signed {signed : Attempt RequestMessage}
    (ended : call.signed? = some signed) : ∃ result, call.result? = some result :=
  let ⟨result, ended, _⟩ := Option.map_eq_some_iff.mp ended
  ⟨result, ended⟩

end SignCall

namespace Client

variable {client : Client} {message : RequestMessage} {instants : List Instant}

/-- What a client that takes a step at each of some instants has made of a message, if it is done
with signing. -/
def signed (client : Client) (message : RequestMessage) (instants : List Instant) :
    Option (Attempt RequestMessage) :=
  match client.signer with
  | none => some (.ok message)
  | some signer => ((signer.call message).after instants).signed?

theorem signed_of_signer {signer : Signer} (signs : client.signer = some signer) :
    client.signed message instants = ((signer.call message).after instants).signed? := by
  rw [signed, signs]

/-- What has been made of a message stays. -/
theorem signed_append {result : Attempt RequestMessage}
    (ready : client.signed message instants = some result) (later : List Instant) :
    client.signed message (instants ++ later) = some result := by
  cases signs : client.signer with
  | none =>
    rw [signed, signs] at ready ⊢
    exact ready
  | some signer =>
    rw [signed_of_signer signs] at ready ⊢
    obtain ⟨_, ended⟩ := SignCall.exists_result_of_signed ready
    rw [SignCall.after, List.foldl_append]
    exact (congrArg SignCall.signed? (SignCall.after_of_result ended later)).trans ready

/-- What comes back for a message as it was signed: the reason why it was not signed or cannot be
sent, or else the reply of the transport, if there is one. -/
def answered (client : Client) (reply : Option (Attempt Response)) :
    Attempt RequestMessage → Option (Attempt Response)
  | .error reason => some (.error reason)
  | .ok signed =>
    match signed.toHttp with
    | .error fault => some (.error (.failed fault.toCallError))
    | .ok _ =>
      if client.context.transport then reply else some (.error (.failed Context.noTransport))

end Client

/-- What is handed over to the transport of a message as it was signed: nothing, or its request. -/
def Flight.Handed (signed : Option (Attempt RequestMessage)) (sent : List HttpRequest) : Prop :=
  sent = [] ∨ ∃ form travelling, signed = some (.ok form) ∧ form.toHttp = .ok travelling ∧
    sent = [travelling]

/-! ### The course -/

section

variable {ρ γ α : Type}

/-- What a call comes to whose message has been signed: what its operation reads in the response, in
the light of what was noted, or why there is none. Nothing comes of it as long as the transport
gives no reply. -/
def Action.course (action : Action ρ γ α) (noted : γ) (reply : Option (Attempt Response))
    (signed : Attempt RequestMessage) : Option (Attempt α) :=
  (action.client.answered reply signed).map fun answer =>
    answer.bind (action.operation.readReply noted)

/-- A request that is handed over comes to what its operation reads in the reply, if there is
one. -/
theorem Action.course_of_travels {action : Action ρ γ α} {signed : RequestMessage}
    {travelling : HttpRequest} (travels : signed.toHttp = .ok travelling)
    (carried : action.client.context.transport = true) (noted : γ)
    (reply : Option (Attempt Response)) :
    action.course noted reply (.ok signed) =
      reply.map fun answer => answer.bind (action.operation.readReply noted) := by
  rw [course, Client.answered, travels]
  simp only [carried, if_true]

namespace Flight

variable {action : Action ρ γ α} {noted : γ} {message : RequestMessage}
  {reply : Option (Attempt Response)} {instants : List Instant} {aborted : Prop}
  {sent : List HttpRequest} {flight : Flight α}

/-- The stages of a flight that is on its course after some instants, with what it has handed over
by then. -/
inductive Stage.On (action : Action ρ γ α) (noted : γ) (message : RequestMessage)
    (reply : Option (Attempt Response)) (instants : List Instant) (aborted : Prop)
    (sent : List HttpRequest) : Stage α → Prop
  | signing {signer : Signer} (nothing : sent = []) (signs : action.client.signer = some signer)
    (unfinished : ((signer.call message).after instants).result? = none) :
    On action noted message reply instants aborted sent
      (.signing ((signer.call message).after instants))
  | sending {signed : RequestMessage} (nothing : sent = [])
    (ready : action.client.signed message instants = some (.ok signed)) :
    On action noted message reply instants aborted sent (.sending signed)
  | waiting {signed : RequestMessage} {travelling : HttpRequest} (handed : sent = [travelling])
    (ready : action.client.signed message instants = some (.ok signed))
    (travels : signed.toHttp = .ok travelling)
    (carried : action.client.context.transport = true) :
    On action noted message reply instants aborted sent .waiting
  | ended {signed : Attempt RequestMessage} {attempt : Attempt α}
    (hands : Handed (action.client.signed message instants) sent)
    (ready : action.client.signed message instants = some signed)
    (comes : action.course noted reply signed = some attempt) :
    On action noted message reply instants aborted sent
      (.ended (attempt.mapError action.failure))
  | aborted (hands : Handed (action.client.signed message instants) sent) (gone : aborted) :
    On action noted message reply instants aborted sent (.ended (.error action.abandoned))

theorem Handed.append {client : Client} (hands : Handed (client.signed message instants) sent)
    (later : List Instant) : Handed (client.signed message (instants ++ later)) sent := by
  rcases hands with none | ⟨form, travelling, ready, travels, same⟩
  · exact .inl none
  · exact .inr ⟨form, travelling, Client.signed_append ready later, travels, same⟩

namespace Stage.On

variable {stage : Stage α}

theorem hands (place : stage.On action noted message reply instants aborted sent) :
    Handed (action.client.signed message instants) sent := by
  cases place with
  | signing nothing | sending nothing => exact .inl nothing
  | waiting handed ready travels => exact .inr ⟨_, _, ready, travels, handed⟩
  | ended hands | aborted hands => exact hands

theorem mono (place : stage.On action noted message reply instants aborted sent) {given : Prop}
    (implied : aborted → given) : stage.On action noted message reply instants given sent := by
  cases place with
  | signing nothing signs unfinished => exact .signing nothing signs unfinished
  | sending nothing ready => exact .sending nothing ready
  | waiting handed ready travels carried => exact .waiting handed ready travels carried
  | ended hands ready comes => exact .ended hands ready comes
  | aborted hands gone => exact .aborted hands (implied gone)

end Stage.On

/-- A flight that is on its course. -/
structure Follows (action : Action ρ γ α) (noted : γ) (message : RequestMessage)
    (reply : Option (Attempt Response)) (instants : List Instant) (aborted : Prop)
    (flight : Flight α) : Prop where
  context : flight.context = action.client.context
  read : flight.read = action.operation.readReply noted
  failure : flight.failure = action.failure
  abandoned : flight.abandoned = action.abandoned
  place : flight.stage.On action noted message reply instants aborted flight.sent

namespace Follows

/-- A flight on its course that comes to another stage of it. -/
theorem move (follows : flight.Follows action noted message reply instants aborted)
    {later : List Instant} {stage : Stage α}
    (place : stage.On action noted message reply later aborted sent) :
    { flight with sent, stage }.Follows action noted message reply later aborted :=
  ⟨follows.context, follows.read, follows.failure, follows.abandoned, place⟩

/-- A flight on its course ends with what the call comes to. -/
theorem finish (follows : flight.Follows action noted message reply instants aborted)
    {later : List Instant} {signed : Attempt RequestMessage} {attempt : Attempt α}
    (hands : Handed (action.client.signed message later) flight.sent)
    (ready : action.client.signed message later = some signed)
    (comes : action.course noted reply signed = some attempt) :
    (flight.finish attempt).Follows action noted message reply later aborted := by
  refine follows.move ?_
  rw [follows.failure]
  exact .ended hands ready comes

theorem mono (follows : flight.Follows action noted message reply instants aborted)
    {given : Prop} (implied : aborted → given) :
    flight.Follows action noted message reply instants given :=
  ⟨follows.context, follows.read, follows.failure, follows.abandoned, follows.place.mono implied⟩

/-- A flight that waits comes to what its operation reads in the reply, if there is one. -/
theorem course_of_waiting (follows : flight.Follows action noted message reply instants aborted)
    (stage : flight.stage = .waiting) :
    ∃ signed, action.client.signed message instants = some (.ok signed) ∧
      action.course noted reply (.ok signed) =
        reply.map fun answer => answer.bind (action.operation.readReply noted) := by
  have place := follows.place
  rw [stage] at place
  cases place with
  | waiting handed ready travels carried =>
    exact ⟨_, ready, Action.course_of_travels travels carried noted reply⟩

/-! #### One event -/

theorem afterSigning (follows : flight.Follows action noted message reply instants aborted)
    (nothing : flight.sent = []) {signer : Signer} (signs : action.client.signer = some signer)
    (later : List Instant) :
    (flight.afterSigning ((signer.call message).after later)).Follows action noted message reply
      later aborted := by
  have ready : action.client.signed message later = _ := Client.signed_of_signer signs
  unfold Flight.afterSigning
  cases result : ((signer.call message).after later).result? with
  | none => exact follows.move (.signing nothing signs result)
  | some attempt =>
    rw [SignCall.signed?, result] at ready
    cases attempt with
    | error reason => exact follows.finish (.inl nothing) ready rfl
    | ok done => exact follows.move (.sending nothing ready)

theorem send (follows : flight.Follows action noted message reply instants aborted)
    (nothing : flight.sent = []) {signed : RequestMessage} {later : List Instant}
    (ready : action.client.signed message later = some (.ok signed)) :
    (flight.send signed).Follows action noted message reply later aborted := by
  -- the course names the same obstacles in the same order: address and headers, then the transport
  unfold Flight.send Flight.request Context.findTransport
  have same : flight.context.transport = action.client.context.transport := by rw [follows.context]
  have comes : action.course noted reply (.ok signed) =
      (action.client.answered reply (.ok signed)).map fun answer =>
        answer.bind (action.operation.readReply noted) := rfl
  rw [Client.answered] at comes
  cases travels : signed.toHttp with
  | error fault =>
    rw [travels] at comes
    exact follows.finish (.inl nothing) ready comes
  | ok travelling =>
    rw [travels, ← same] at comes
    cases carried : flight.context.transport with
    | false =>
      rw [carried] at comes
      exact follows.finish (.inl nothing) ready comes
    | true =>
      rw [nothing]
      exact follows.move (.waiting rfl ready travels (same.symm.trans carried))

/-- A step keeps a flight on its course, whatever the clones of its signer share. -/
theorem step (follows : flight.Follows action noted message reply instants aborted) (now : Moment)
    (cache : CredentialCache) :
    (flight.step now cache).2.Follows action noted message reply (instants ++ [(now, cache)])
      aborted := by
  obtain ⟨context, read, failure, abandoned, sent, stage⟩ := flight
  have place := follows.place
  cases place with
  | signing nothing signs unfinished =>
    simp only [Flight.step, ← SignCall.after_concat]
    exact follows.afterSigning nothing signs _
  | sending nothing ready =>
    simp only [Flight.step]
    exact follows.send nothing (Client.signed_append ready _)
  | waiting handed ready travels carried =>
    exact follows.move (.waiting handed (Client.signed_append ready _) travels carried)
  | ended hands ready comes =>
    exact follows.move (.ended (hands.append _) (Client.signed_append ready _) comes)
  | aborted hands gone => exact follows.move (.aborted (hands.append _) gone)

/-- The reply of the transport keeps a flight on its course. -/
theorem land (follows : flight.Follows action noted message reply instants aborted)
    {answer : Attempt Response} (arrives : reply = some answer) :
    (flight.land answer).Follows action noted message reply instants aborted := by
  unfold Flight.land
  cases stage : flight.stage with
  | waiting =>
    obtain ⟨signed, ready, comes⟩ := follows.course_of_waiting stage
    rw [follows.read]
    refine follows.finish follows.place.hands ready ?_
    rw [comes, arrives, Option.map_some]
  | _ => exact follows

theorem abort (follows : flight.Follows action noted message reply instants aborted)
    (gone : aborted) :
    flight.abort.Follows action noted message reply instants aborted := by
  unfold Flight.abort
  cases flight.outcome? with
  | some outcome => exact follows
  | none =>
    refine follows.move ?_
    rw [follows.abandoned]
    exact .aborted follows.place.hands gone

/-! #### Its end -/

/-- What a flight has ended with that has not been aborted. -/
theorem outcome_eq (follows : flight.Follows action noted message reply instants aborted)
    {outcome : Except CallError α} (ended : flight.outcome? = some outcome) :
    aborted ∨ ∃ signed attempt, action.client.signed message instants = some signed ∧
      action.course noted reply signed = some attempt ∧
        outcome = attempt.mapError action.failure := by
  have place := follows.place
  unfold Flight.outcome? at ended
  cases stage : flight.stage with
  | ended stored =>
    rw [stage] at place ended
    cases ended
    cases place with
    | ended hands ready comes => exact .inr ⟨_, _, ready, comes, rfl⟩
    | aborted hands gone => exact .inl gone
  | _ =>
    rw [stage] at ended
    cases ended

end Follows

end Flight

/-- A flight sets out on its course. -/
theorem Action.follows_takeOff {action : Action ρ γ α} {now : Moment} {insideRuntime : Bool}
    {custom : List (String × String)} {request : ρ} {noted : γ} {message : RequestMessage}
    {flight : Flight α} (takesOff : action.takeOff now insideRuntime custom request = .ok flight)
    (prepares : action.prepare now custom request = .ok (message, noted))
    (reply : Option (Attempt Response)) (aborted : Prop) :
    flight.Follows action noted message reply [] aborted := by
  obtain ⟨_, _, same, _, rfl⟩ := takeOff_eq_ok.mp takesOff
  cases same.symm.trans prepares
  refine ⟨rfl, rfl, rfl, rfl, ?_⟩
  simp only [firstStage]
  cases signs : action.client.signer with
  | none =>
    refine .sending rfl ?_
    rw [Client.signed, signs]
  | some signer => exact .signing rfl signs rfl

end

end SignedQueue

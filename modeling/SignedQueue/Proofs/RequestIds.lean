import Mathlib
import SignedQueue.Proofs.Execution
/-!
**Errors carry the request id.** An action that goes with a request id puts it on every error of
this side, wherever the error comes from and however the caller hears of it, unless the error has an
id of its own. Of what the service reports, nothing is changed.

* `CallError.carrying`, `CallError.named`: an error with an id, and what the caller is shown of it;
* `Action.Raises`: the errors that a call comes by once it has set out;
* `Action.Correlates`: all errors that the caller hears of carry an id;
* `Action.correlates_of_requestId`: this holds of every action that goes with one.
-/

namespace SignedQueue

/-! ### Errors with an id -/

namespace CallError

/-- An error with an id, unless it carries one already. -/
def carrying (id : String) (error : CallError) : CallError :=
  { error with requestId := some (error.requestId.getD id) }

/-- What the caller is shown of an error once the call has set out: an error of this side carries an
id, and an error that the service reports is left alone. -/
def named (id : String) (error : CallError) : CallError :=
  if error.isLocal then error.carrying id else error

theorem orRequestId_some (error : CallError) (id : String) :
    error.orRequestId (some id) = error.carrying id := by
  unfold orRequestId carrying
  cases error.requestId <;> rfl

theorem named_of_isLocal {error : CallError} (raisedHere : error.isLocal = true) (id : String) :
    error.named id = error.orRequestId (some id) := by
  rw [named, if_pos raisedHere, orRequestId_some]

end CallError

variable {ρ γ α : Type}

namespace Action

variable {action : Action ρ γ α} {id : String}

/-- The error of a call in which a part has broken down, without the id of the action. -/
def breakdown (action : Action ρ γ α) (said : Option String) : CallError :=
  { kind := .unexpected
    message := said.getD "call panicked"
    context := ["action: " ++ action.operation.name] }

/-- The errors that a call comes by once it has set out, as their producers raise them. -/
inductive Raises (action : Action ρ γ α) (noted : γ) (message : RequestMessage)
    (reply : Option (Attempt Response)) (steps : List Instant) : CallError → Prop
  /-- The reader's time is up. -/
  | late (timeout : Span) : Raises action noted message reply steps (.lateness timeout)
  | cancelled : Raises action noted message reply steps .cancellation
  /-- Signing, sending or reading fails, or the response reports a failure. -/
  | failed {signed : Attempt RequestMessage} {error : CallError}
    (ready : action.client.signed message steps = some signed)
    (comes : action.course noted reply signed = some (.error (.failed error))) :
    Raises action noted message reply steps error
  /-- Signing, the transport or a reader of responses breaks down. -/
  | brokeDown {signed : Attempt RequestMessage} {said : Option String}
    (ready : action.client.signed message steps = some signed)
    (comes : action.course noted reply signed = some (.error (.brokeDown said))) :
    Raises action noted message reply steps (action.breakdown said)

/-- A failure is shown with the id of the action. -/
theorem failure_failed (goesWith : action.requestId = some id) (error : CallError) :
    action.failure (.failed error) = error.named id := by
  simp only [failure, withId, CallError.named, goesWith, CallError.orRequestId_some]

/-- A breakdown is shown with the id of the action. -/
theorem failure_brokeDown (goesWith : action.requestId = some id) (said : Option String) :
    action.failure (.brokeDown said) = (action.breakdown said).named id := by
  have raisedHere : (action.breakdown said).isLocal = true := rfl
  rw [CallError.named_of_isLocal raisedHere]
  simp only [failure, goesWith]
  rfl

end Action

/-! ### All errors of an action -/

/-- An error that the caller is shown is one that the call came by, with the id of the action. -/
theorem Underway.Supervised.raises {action : Action ρ γ α} {noted : γ} {message : RequestMessage}
    {reply : Option (Attempt Response)} {callback : Bool} {steps : List Instant}
    {call : Underway α} {id : String} {error : CallError}
    (supervised : call.Supervised action noted message reply callback steps)
    (goesWith : action.requestId = some id) (shows : call.Shows (.error error)) :
    ∃ raw, action.Raises noted message reply steps raw ∧ error = raw.named id := by
  have here (raw : CallError) (raisedHere : raw.isLocal = true) :
      raw.orRequestId action.requestId = raw.named id := by
    rw [CallError.named_of_isLocal raisedHere, goesWith]
  rcases supervised.shown shows with ⟨timeout, timedOut⟩ | stored
  · cases timedOut
    exact ⟨_, .late timeout, here _ rfl⟩
  · rcases supervised.outcome_eq stored with
      ⟨_, cancelled⟩ | ⟨signed, attempt, ready, comes, outcome⟩
    · cases cancelled
      exact ⟨_, .cancelled, here _ rfl⟩
    · obtain ⟨reason, failed, rfl⟩ := mapError_eq_error.mp outcome.symm
      rw [failed] at comes
      cases reason with
      | failed raw => exact ⟨raw, .failed ready comes, action.failure_failed goesWith raw⟩
      | brokeDown said => exact ⟨_, .brokeDown ready comes, action.failure_brokeDown goesWith said⟩

namespace Action

variable {action : Action ρ γ α} {id : String}

/-- All errors that the caller hears of carry an id: the given one, or one that they had before. -/
structure Correlates (action : Action ρ γ α) (id : String) (now : Moment)
    (insideRuntime callback : Bool) (custom : List (String × String)) (request : ρ) : Prop where
  /-- The message cannot be made. -/
  built :
    ∀ error, action.buildMessage request = .error error →
      ∃ raw, action.Refuses request raw ∧ error = raw.carrying id
  /-- The call does not set out. -/
  dispatched :
    ∀ cache error,
      action.dispatch now insideRuntime callback custom request cache = .error error →
        ∃ raw, action.Grounds insideRuntime request raw ∧ error = raw.carrying id
  /-- The call has set out, and events have happened in any order. -/
  shown :
    ∀ start, action.setOut now insideRuntime callback custom request = .ok start →
      ∃ message noted, action.prepare now custom request = .ok (message, noted) ∧
        ∀ reply events error, (start.run reply events).Shows (.error error) →
          ∃ raw, action.Raises noted message reply (Underway.instants events) raw ∧
            error = raw.named id
  /-- The caller blocks until the outcome is there. -/
  executed :
    ∀ reply cache error,
      (action.execute now insideRuntime custom reply request cache).result = .error error →
        (∃ raw, action.Grounds insideRuntime request raw ∧ error = raw.carrying id) ∨
          ∃ message noted steps raw, action.prepare now custom request = .ok (message, noted) ∧
            action.Raises noted message reply steps raw ∧ error = raw.named id
  /-- The caller waits for the outcome inside a runtime. -/
  called :
    ∀ reply cache error, (action.call now reply request cache).result = .error error →
      (∃ raw, action.Grounds true request raw ∧ error = raw.carrying id) ∨
        ∃ message noted steps raw, action.prepare now [] request = .ok (message, noted) ∧
          action.Raises noted message reply steps raw ∧ error = raw.named id

theorem withId_eq_carrying (goesWith : action.requestId = some id) (raw : CallError) :
    action.withId raw = raw.carrying id := by
  rw [withId, goesWith, CallError.orRequestId_some]

/-- An error of a request that is sent and waited for. -/
theorem raises_of_exchange (goesWith : action.requestId = some id) {now : Moment}
    {insideRuntime : Bool} {custom : List (String × String)} {request : ρ}
    {reply : Option (Attempt Response)} {cache : CredentialCache}
    {reader : Completion α → Outcome α}
    (reads : ∀ call : Underway α, call.Shows (reader call.completion)) {error : CallError}
    (failed : (action.exchange now insideRuntime custom reply request cache reader).result =
      .error error) :
    (∃ raw, action.Grounds insideRuntime request raw ∧ error = raw.carrying id) ∨
      ∃ message noted steps raw, action.prepare now custom request = .ok (message, noted) ∧
        action.Raises noted message reply steps raw ∧ error = raw.named id := by
  by_cases onGround : ∃ raw, action.Grounds insideRuntime request raw
  · obtain ⟨raw, grounds⟩ := onGround
    rw [exchange_of_grounds grounds] at failed
    cases failed
    exact .inl ⟨raw, grounds, withId_eq_carrying goesWith raw⟩
  · obtain ⟨start, setsOut⟩ := exists_setOut now false custom (not_exists.mp onGround)
    obtain ⟨message, noted, prepares, supervised⟩ := Underway.supervised_setOut setsOut
    obtain ⟨next, ⟨events, rfl, _⟩, _, _, _, result⟩ :=
      exchange_reached setsOut prepares reply cache reader
    have shows := reads (start.run reply events)
    rw [← result, failed] at shows
    obtain ⟨raw, raises, same⟩ :=
      (Underway.supervised_run (supervised reply) events).raises goesWith shows
    exact .inr ⟨message, noted, _, raw, prepares, raises, same⟩

/-- **Every error of this side carries a request id.** -/
theorem correlates_of_requestId (goesWith : action.requestId = some id) (now : Moment)
    (insideRuntime callback : Bool) (custom : List (String × String)) (request : ρ) :
    action.Correlates id now insideRuntime callback custom request where
  built error failed := by
    obtain ⟨raw, refused, rfl⟩ := buildMessage_eq_error.mp failed
    exact ⟨raw, refused, withId_eq_carrying goesWith raw⟩
  dispatched cache error failed := by
    obtain ⟨raw, grounds, rfl⟩ := dispatch_eq_error.mp failed
    exact ⟨raw, grounds, withId_eq_carrying goesWith raw⟩
  shown start setsOut := by
    obtain ⟨message, noted, prepares, supervised⟩ := Underway.supervised_setOut setsOut
    refine ⟨message, noted, prepares, ?_⟩
    intro reply events error shows
    have later := Underway.supervised_run (supervised reply) events
    rw [List.nil_append] at later
    exact later.raises goesWith shows
  executed _ _ _ failed := raises_of_exchange goesWith (fun _ => .get _) failed
  called _ _ _ failed := raises_of_exchange goesWith (fun _ => .wait _) failed

/-- An action of a client that does not sign, which goes with a request id. -/
def namedListing : Action Unit Unit Unit where
  operation :=
    { name := "ListQueues"
      method := .get
      build := fun _ => .ok ({ method := .get, resourcePath := "/queues" }, ())
      reply := .ignore ()
      refusal := fun _ => .failed (.reported "Busy" "try later") }
  client :=
    { context := { transport := true, runtime := true }
      config := { endpoint := "http://host" }
      signer := none }
  requestId := some "id"

/-- The transport breaks down, and the callback is given an error that carries the id. -/
theorem correlates_of_requestId_brokeDown :
    ∃ start message raw,
      namedListing.setOut 0 false true [] () = .ok start ∧
        .error (raw.named "id") ∈
            (start.run (some (.error (.brokeDown none))) Underway.repliedTo).completion.delivered ∧
          namedListing.Raises () message (some (.error (.brokeDown none)))
              (Underway.instants Underway.repliedTo) raw ∧
            (raw.named "id").requestId = some "id" := by
  have told :
      (match namedListing.setOut 0 false true [] () with
        | .ok start =>
          let call := start.run (some (.error (.brokeDown none))) Underway.repliedTo
          decide (call.completion.delivered = [.error ((namedListing.breakdown none).named "id")])
        | .error _ => false) = true := by decide +kernel
  split at told
  · rename_i start setsOut
    have given := of_decide_eq_true told
    obtain ⟨message, _, _, shown⟩ :=
      (correlates_of_requestId rfl 0 false true [] ()).shown start setsOut
    obtain ⟨raw, raises, same⟩ :=
      shown _ Underway.repliedTo _ (.callback (given ▸ List.mem_singleton.mpr rfl))
    rw [same] at given
    refine ⟨start, message, raw, setsOut, ?_, raises, ?_⟩
    · rw [given]
      exact List.mem_singleton.mpr rfl
    · rw [← same]
      rfl
  · cases told

end Action

end SignedQueue

import Mathlib
import SignedQueue.Call.Traffic
import SignedQueue.Proofs.CallOutcome
import SignedQueue.Proofs.FixedCredential
/-!
**What a call comes to that nothing comes between.** With a fixed credential or none it is the
course of its message, signed in the one way there is. Operations of different types are compared by
closing them: a closed operation has one request, and its values are those of another type.

* `Operation.closed`, `Action.closed`: an operation for one request;
* `Action.prepare_closed`, `Action.takeOff_closed`, `Action.course_closed`: it takes off and ends as
  the operation does;
* `Flight.Follows.keepsOnly_step`, `Flight.Follows.outcome_fixed`: no other credential is kept, so
  that the message and the reply fix the outcome;
* `Action.execute_of_course`: a call that is sent and waited for comes to it.
-/

namespace SignedQueue

/-! ### One kind of call for all operations -/

section Closed

variable {ρ γ α β : Type}

/-- How a successful response is read in the light of what was noted, with its value put into
another type. -/
def Operation.reader (operation : Operation ρ γ α) (wrap : α → β) (noted : γ)
    (response : Response) : Attempt β :=
  (operation.readSuccess noted response).map wrap

/-- An operation for one request, with its value put into another type. What it notes is how a
successful response is read. -/
def Operation.closed (operation : Operation ρ γ α) (request : ρ) (wrap : α → β) :
    Operation Unit (Response → Attempt β) β where
  name := operation.name
  method := operation.method
  build _ := (operation.build request).map (Prod.map id (operation.reader wrap))
  reply := .read id
  refusal := operation.refusal

theorem Operation.readReply_closed (operation : Operation ρ γ α) (request : ρ) (wrap : α → β)
    (noted : γ) (response : Response) :
    (operation.closed request wrap).readReply (operation.reader wrap noted) response =
      (operation.readReply noted response).map wrap := by
  unfold readReply
  cases response.status.isSuccess <;> rfl

namespace Action

/-- An action for one request, with its value put into another type. -/
def closed (action : Action ρ γ α) (request : ρ) (wrap : α → β) :
    Action Unit (Response → Attempt β) β where
  operation := action.operation.closed request wrap
  client := action.client
  requestId := action.requestId

variable {action : Action ρ γ α} {now : Moment} {insideRuntime : Bool}
  {custom : List (String × String)} {request : ρ} {noted : γ}

theorem prepare_closed (wrap : α → β) :
    (action.closed request wrap).prepare now custom () =
      (action.prepare now custom request).map (Prod.map id (action.operation.reader wrap)) := by
  have home : (action.closed request wrap).endpoint = action.endpoint := rfl
  have builds : (action.closed request wrap).operation.build () =
      (action.operation.build request).map (Prod.map id (action.operation.reader wrap)) := rfl
  unfold prepare buildMessage
  rw [home, builds]
  cases action.operation.build request with
  | error error => rfl
  | ok built =>
    simp only [Except.map, Except.mapError, bind, Except.bind, Prod.map, id]
    cases relativePath action.endpoint built.1.resourcePath <;> rfl

theorem takeOff_closed (wrap : α → β) :
    (action.closed request wrap).takeOff now insideRuntime custom () =
      (action.takeOff now insideRuntime custom request).map (Flight.map wrap) := by
  have reads (noted : γ) :
      (action.closed request wrap).operation.readReply (action.operation.reader wrap noted) =
        fun response => (action.operation.readReply noted response).map wrap :=
    funext fun response => action.operation.readReply_closed request wrap noted response
  have driven : (action.closed request wrap).client = action.client := rfl
  unfold takeOff firstStage
  simp only [prepare_closed, driven]
  cases action.prepare now custom request with
  | error error => rfl
  | ok prepared =>
    cases action.client.context.findRuntime insideRuntime with
    | error error => rfl
    | ok found =>
      show Except.ok _ = Except.ok _
      simp only [Prod.map, reads]
      cases action.client.signer <;> rfl

theorem course_closed (wrap : α → β) (reply : Option (Attempt Response))
    (signed : Attempt RequestMessage) :
    (action.closed request wrap).course (action.operation.reader wrap noted) reply signed =
      (action.course noted reply signed).map fun attempt => attempt.map wrap := by
  unfold course
  rw [Option.map_map]
  refine congrArg (Option.map · _) (funext fun answer => ?_)
  cases answer with
  | error reason => rfl
  | ok response => exact action.operation.readReply_closed request wrap noted response

/-- What a call comes to with a value is what its operation reads in the response. -/
theorem course_eq_ok {reply : Option (Attempt Response)} {signed : Attempt RequestMessage}
    {value : α} (comes : action.course noted reply signed = some (.ok value)) :
    ∃ response, reply = some (.ok response) ∧
      action.operation.readReply noted response = .ok value := by
  obtain ⟨answer, answers, reads⟩ := Option.map_eq_some_iff.mp comes
  obtain ⟨response, rfl, reads⟩ := bind_eq_ok.mp reads
  refine ⟨response, ?_, reads⟩
  cases signed with
  | error reason => cases answers
  | ok form =>
    rw [Client.answered] at answers
    cases travels : form.toHttp with
    | error fault =>
      rw [travels] at answers
      cases answers
    | ok travelling =>
      rw [travels] at answers
      cases carried : action.client.context.transport with
      | false => simp [carried] at answers
      | true => simpa [carried] using answers

end Action

end Closed

/-! ### What is kept -/

section

variable {ρ γ α β : Type} {action : Action ρ γ α} {credential : Option Credential} {now : Moment}
  {insideRuntime : Bool} {custom : List (String × String)} {request : ρ} {noted : γ}
  {message : RequestMessage} {reply : Option (Attempt Response)} {instants : List Instant}
  {cache : CredentialCache}

namespace Flight.Follows

variable {flight : Flight α} {aborted : Prop}

/-- A flight on its course keeps no credential but its client's, if no other has been kept. -/
theorem keepsOnly_step (follows : flight.Follows action noted message reply instants aborted)
    (fixed : action.client.signer = credential.map Client.fixedSigner)
    (past : ∀ instant ∈ instants, instant.2.KeepsOnly credential)
    (keeps : cache.KeepsOnly credential) (now : Moment) :
    (flight.step now cache).1.KeepsOnly credential := by
  obtain ⟨context, read, failure, abandoned, sent, stage⟩ := flight
  have place := follows.place
  cases place with
  | @signing signer nothing signs unfinished =>
    intro given member
    obtain rfl : credential = some given := member
    obtain rfl : Client.fixedSigner given = signer := Option.some.inj (fixed.symm.trans signs)
    have uses : ((Client.fixedSigner given).call message).Uses given message := ⟨rfl, .reading⟩
    exact ((uses.after fun instant taken => past instant taken given rfl).step
      (keeps given rfl) now).2
  | _ => exact keeps

theorem keepsOnly_instants (follows : flight.Follows action noted message reply instants aborted)
    (fixed : action.client.signer = credential.map Client.fixedSigner)
    (past : ∀ instant ∈ instants, instant.2.KeepsOnly credential)
    (keeps : cache.KeepsOnly credential) (now : Moment) (count : Nat) :
    ∀ instant ∈ flight.instants now count cache, instant.2.KeepsOnly credential := by
  induction count generalizing cache flight instants with
  | zero => exact nofun
  | succ count ih =>
    rw [Flight.instants, List.forall_mem_cons]
    refine ⟨keeps, ih (follows.step now cache) ?_ (follows.keepsOnly_step fixed past keeps now)⟩
    rw [List.forall_mem_append]
    exact ⟨past, List.forall_mem_singleton.mpr keeps⟩

/-- What a flight on its course ends with is fixed by its message and the reply. -/
theorem outcome_fixed (follows : flight.Follows action noted message reply instants False)
    (fixed : action.client.signer = credential.map Client.fixedSigner)
    (past : ∀ instant ∈ instants, instant.2.KeepsOnly credential) {outcome : Outcome α}
    (ended : flight.outcome? = some outcome) :
    ∃ attempt,
      action.course noted reply (.ok (Scheme.form credential message)) = some attempt ∧
        outcome = attempt.mapError action.failure := by
  obtain ⟨signed, attempt, ready, comes, same⟩ := (follows.outcome_eq ended).resolve_left id
  obtain rfl := Client.signed_fixed fixed past ready
  exact ⟨attempt, comes, same⟩

end Flight.Follows

/-! ### A call that is the only one -/

namespace Action

/-- What a call comes to that nothing comes between. -/
theorem execute_of_course {flight : Flight α} {attempt : Attempt α}
    (fixed : action.client.signer = credential.map Client.fixedSigner)
    (keeps : cache.KeepsOnly credential)
    (takesOff : action.takeOff now insideRuntime custom request = .ok flight)
    (prepares : action.prepare now custom request = .ok (message, noted))
    (comes : action.course noted reply (.ok (Scheme.form credential message)) = some attempt) :
    (action.execute now insideRuntime custom reply request cache).result =
      attempt.mapError action.failure := by
  have setsOut : action.setOut now insideRuntime false custom request = .ok _ :=
    map_eq_ok.mpr ⟨flight, takesOff, rfl⟩
  obtain ⟨next, _, atRest, follows, _, result⟩ := exchange_reached setsOut prepares reply cache
    (·.get action.client.config.socketTimeout)
  have past := (follows_takeOff takesOff prepares reply False).keepsOnly_instants fixed nofun keeps
    now flight.stage.remaining
  rw [execute, result]
  cases atRest with
  | waiting stage never unended down =>
    -- without a reply nothing comes of a request that is on its way
    obtain ⟨form, ready, waits⟩ := follows.course_of_waiting stage
    obtain rfl := Except.ok.inj (Client.signed_fixed fixed past ready)
    rw [waits, never] at comes
    cases comes
  | ended stage stored raised =>
    have ended := (Flight.outcome?_eq_some next.flight).mpr stage
    obtain ⟨attempt', comes', same⟩ := follows.outcome_fixed fixed past ended
    obtain rfl := Option.some.inj (comes'.symm.trans comes)
    rw [Completion.get, show next.completion.outcome = _ from stored, same]

/-- A request that stays on the ground comes to its reason. -/
theorem execute_of_error {error : CallError}
    (stays : action.takeOff now insideRuntime custom request = .error error) :
    (action.execute now insideRuntime custom reply request cache).result = .error error := by
  obtain ⟨reason, grounds, rfl⟩ := takeOff_eq_error.mp stays
  rw [execute, exchange_of_grounds grounds]

theorem execute_closed_of_course (wrap : α → β) {reader : Response → Attempt β} {flight : Flight β}
    {attempt : Attempt β}
    (fixed : action.client.signer = credential.map Client.fixedSigner)
    (keeps : cache.KeepsOnly credential)
    (takesOff : (action.closed request wrap).takeOff now insideRuntime custom () = .ok flight)
    (prepares : (action.closed request wrap).prepare now custom () = .ok (message, reader))
    (comes :
      (action.closed request wrap).course reader reply (.ok (Scheme.form credential message)) =
        some attempt) :
    (action.execute now insideRuntime custom reply request cache).result.map wrap =
      attempt.mapError (action.closed request wrap).failure := by
  rw [takeOff_closed, map_eq_ok] at takesOff
  obtain ⟨own, takesOff, rfl⟩ := takesOff
  rw [prepare_closed, map_eq_ok] at prepares
  obtain ⟨⟨_, noted⟩, prepares, same⟩ := prepares
  cases same
  rw [course_closed, Option.map_eq_some_iff] at comes
  obtain ⟨attempt, comes, rfl⟩ := comes
  rw [execute_of_course fixed keeps takesOff prepares comes]
  cases attempt <;> rfl

theorem execute_closed_of_error (wrap : α → β) {error : CallError}
    (stays : (action.closed request wrap).takeOff now insideRuntime custom () = .error error) :
    (action.execute now insideRuntime custom reply request cache).result.map wrap =
      .error error := by
  rw [takeOff_closed, map_eq_error] at stays
  rw [execute_of_error stays]
  rfl

end Action

end

end SignedQueue

import Mathlib
import SignedQueue.Proofs.CallOutcome
/-!
**What a response makes of a call.** A call whose request has been handed to the transport, and that
gets a response, comes to what its operation reads in this response, whichever way it is sent. Of a
failure that the operation reports the engine changes nothing but the request id of an error of this
side.

* `Flight.IsCarried`: nothing is handed over without a transport;
* `Action.course_of_handed`: what a response is on the course of a call;
* `Action.Resolves`: what every call of a request comes to that has been answered;
* `Action.resolves_readReply`: what its operation reads in the response.
-/

namespace SignedQueue

variable {ρ γ α : Type}

/-! ### Handing over -/

namespace Flight

/-- A flight that has handed over a request has a transport. -/
def IsCarried (flight : Flight α) : Prop :=
  flight.sent ≠ [] → flight.context.transport = true

variable {flight : Flight α}

theorem IsCarried.afterSigning (carried : flight.IsCarried) (call : SignCall) :
    (flight.afterSigning call).IsCarried := by
  unfold Flight.afterSigning
  split <;> exact carried

theorem IsCarried.send (carried : flight.IsCarried) (message : RequestMessage) :
    (flight.send message).IsCarried := by
  unfold Flight.send
  cases made : flight.request message with
  | error error => exact carried
  | ok request =>
    intro _
    obtain ⟨_, _, found⟩ := bind_eq_ok.mp made
    obtain ⟨_, found, _⟩ := bind_eq_ok.mp found
    unfold Context.findTransport at found
    by_contra missing
    rw [if_neg missing] at found
    cases found

theorem IsCarried.step (carried : flight.IsCarried) (now : Moment) (cache : CredentialCache) :
    (flight.step now cache).2.IsCarried := by
  unfold Flight.step
  cases flight.stage with
  | signing call => exact carried.afterSigning (call.step now cache).2
  | sending message =>
    simp only
    exact carried.send message
  | waiting => exact carried
  | ended outcome => exact carried

theorem IsCarried.land (carried : flight.IsCarried) (answer : Attempt Response) :
    (flight.land answer).IsCarried := by
  unfold Flight.land
  split <;> exact carried

theorem IsCarried.abort (carried : flight.IsCarried) : flight.abort.IsCarried := by
  unfold Flight.abort
  split <;> exact carried

end Flight

namespace Underway

variable {reply : Option (Attempt Response)} {call : Underway α}

theorem isCarried_report (carried : call.flight.IsCarried) : call.report.flight.IsCarried := by
  unfold report
  split <;> exact carried

theorem isCarried_step (carried : call.flight.IsCarried) (event : Event) :
    (call.step reply event).flight.IsCarried := by
  cases event with
  | advance now cache => exact carried.step now cache
  | land =>
    cases reply with
    | none => exact carried
    | some answer => exact carried.land answer
  | abort =>
    show (if call.ending.completion.aborted then
      { call with flight := call.flight.abort } else call).flight.IsCarried
    split
    · exact carried.abort
    · exact carried
  | report => exact isCarried_report carried
  | cancel => exact carried
  | turn place => exact carried

/-- Whatever happens to a call, nothing is handed over without a transport. -/
theorem isCarried_run (carried : call.flight.IsCarried) (events : List Event) :
    (call.run reply events).flight.IsCarried := by
  induction events generalizing call with
  | nil => exact carried
  | cons event rest ih => exact ih (isCarried_step carried event)

end Underway

/-! ### Calls that are answered -/

namespace Action

variable {action : Action ρ γ α} {request : ρ} {noted : γ} {response : Response} {now : Moment}
  {insideRuntime callback : Bool} {custom : List (String × String)} {start : Underway α}

theorem isCarried_setOut
    (setsOut : action.setOut now insideRuntime callback custom request = .ok start) :
    start.flight.IsCarried := by
  obtain ⟨flight, takesOff, rfl⟩ := map_eq_ok.mp setsOut
  obtain ⟨_, _, _, _, rfl⟩ := takeOff_eq_ok.mp takesOff
  exact fun sent => absurd rfl sent

/-- Where a request has been handed over and there is a response, the call comes to what its
operation reads in it. -/
theorem course_of_handed {signed : Attempt RequestMessage} {attempt : Attempt α}
    {sent : List HttpRequest} (handed : Flight.Handed (some signed) sent) (went : sent ≠ [])
    (carried : action.client.context.transport = true)
    (comes : action.course noted (some (.ok response)) signed = some attempt) :
    attempt = action.operation.readReply noted response := by
  rcases handed with none | ⟨form, travelling, ready, travels, -⟩
  · exact absurd none went
  · cases ready
    rw [course_of_travels travels carried] at comes
    exact (Option.some.inj comes).symm

/-- What a call comes to whose request has been handed over and answered, and that nobody has
cancelled, whether it is dispatched or waited for. -/
structure Resolves (action : Action ρ γ α) (request : ρ) (response : Response)
    (result : Outcome α) : Prop where
  dispatched :
    ∀ now insideRuntime callback custom events call,
      action.voyage now insideRuntime callback custom request (some (.ok response)) events =
          .ok call →
        call.flight.sent ≠ [] → ¬ call.ending.IsCancelled →
          ∀ outcome, call.completion.outcome = some outcome → outcome = result
  executed :
    ∀ now insideRuntime custom cache,
      let execution :=
        action.execute now insideRuntime custom (some (.ok response)) request cache
      execution.sent ≠ [] → execution.result = result
  called :
    ∀ now cache,
      let execution := action.call now (some (.ok response)) request cache
      execution.sent ≠ [] → execution.result = result

theorem result_exchange (notes : action.operation.Notes request noted) (cache : CredentialCache)
    {timeout : Span} {reader : Completion α → Outcome α} (reads : Completion.Reads timeout reader)
    (went : (action.exchange now insideRuntime custom (some (.ok response)) request cache
      reader).sent ≠ []) :
    (action.exchange now insideRuntime custom (some (.ok response)) request cache reader).result =
      (action.operation.readReply noted response).mapError action.failure := by
  have free : ∀ reason, ¬ action.Grounds insideRuntime request reason := by
    intro reason grounds
    rw [exchange_of_grounds grounds] at went
    exact went rfl
  obtain ⟨start, setsOut⟩ := exists_setOut now false custom free
  obtain ⟨message, _, prepares, _⟩ := Underway.supervised_setOut setsOut
  obtain rfl := noted_of_prepare notes prepares
  obtain ⟨next, ⟨events, reached, _⟩, atRest, follows, sent, result⟩ :=
    exchange_reached setsOut prepares (some (.ok response)) cache reader
  have carried : next.flight.IsCarried :=
    reached ▸ Underway.isCarried_run (isCarried_setOut setsOut) events
  rw [result]
  rw [sent] at went
  cases atRest with
  | waiting _ never => cases never
  | ended stage stored raised =>
    have ended := (Flight.outcome?_eq_some _).mpr stage
    obtain ⟨signed, attempt, ready, comes, rfl⟩ := (follows.outcome_eq ended).resolve_left id
    have handed := follows.place.hands
    rw [ready] at handed
    have given := carried went
    rw [follows.context] at given
    rw [← course_of_handed handed went given comes]
    exact reads.done _ _ stored raised

/-- **An answered call comes to what its operation reads in the response.** -/
theorem resolves_readReply (notes : action.operation.Notes request noted) (response : Response) :
    action.Resolves request response
      ((action.operation.readReply noted response).mapError action.failure) where
  dispatched now insideRuntime callback custom events call sails went notCancelled outcome
      stored := by
    obtain ⟨start, setsOut, rfl⟩ := map_eq_ok.mp sails
    obtain ⟨message, _, prepares, supervised⟩ := Underway.supervised_setOut setsOut
    obtain rfl := noted_of_prepare notes prepares
    have later := Underway.supervised_run (supervised (some (.ok response))) events
    rcases later.outcome_eq stored with ⟨cancelled, _⟩ | ⟨signed, attempt, ready, comes, rfl⟩
    · exact absurd cancelled notCancelled
    · have handed := later.follows.place.hands
      rw [ready] at handed
      have carried := Underway.isCarried_run (isCarried_setOut setsOut) events went
      rw [later.follows.context] at carried
      rw [course_of_handed handed went carried comes]
  executed now insideRuntime custom cache went :=
    result_exchange notes cache (Completion.reads_get _) went
  called now cache went := result_exchange notes cache (Completion.reads_wait _) went

end Action

end SignedQueue

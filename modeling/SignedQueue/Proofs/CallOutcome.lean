import Mathlib
import SignedQueue.Proofs.Execution
/-!
**What a call comes to.** An operation says how it builds the message of a request, what it notes
meanwhile, and how it reads responses. From this and the reply of the transport a table tells what
every call of the operation comes to, up to the request id of an error: the first thing that goes
wrong on the way, or what the response says in the light of what this call noted.

* `Operation.reading`: what a response means for the caller;
* `Action.outcome`: the table;
* `Action.Fares`, `Action.Returns`: what it says about a call that is dispatched, and about one that
  is waited for;
* `Action.fares`: it is true.
-/

namespace SignedQueue

/-! ### Errors up to their request id -/

/-- An error without its request id. -/
def CallError.anonymous (error : CallError) : CallError :=
  { error with requestId := none }

/-- Two outcomes that differ at most in the request id of their error. -/
def Outcome.SameButId {α : Type} (first second : Outcome α) : Prop :=
  first.mapError CallError.anonymous = second.mapError CallError.anonymous

/-- What a caller gets who waits: the outcome if there is to be one, or else that it is late. -/
def Outcome.Meets {α : Type} (result : Outcome α) (expected : Option (Outcome α))
    (late : CallError) : Prop :=
  match expected with
  | some outcome => result.SameButId outcome
  | none => result = .error late

/-! ### The table -/

section

variable {ρ γ α : Type}

namespace Operation

/-- What an interruption means for the caller, without the request id. -/
def shown (operation : Operation ρ γ α) : Interruption → CallError
  | .failed error => error
  | .brokeDown said =>
    { kind := .unexpected
      message := said.getD "call panicked"
      context := ["action: " ++ operation.name] }

/-- What a response means for the caller, in the light of what was noted. -/
def reading (operation : Operation ρ γ α) (noted : γ) (response : Response) : Outcome α :=
  if response.status.isSuccess then
    match operation.reply with
    | .ignore value => .ok value
    | .read reader => (reader noted response).mapError operation.shown
  else .error (operation.shown (operation.refusal response))

theorem mapError_readReply (operation : Operation ρ γ α) (noted : γ) (response : Response) :
    (operation.readReply noted response).mapError operation.shown =
      operation.reading noted response := by
  unfold readReply readSuccess reading
  cases response.status.isSuccess with
  | false => rfl
  | true => cases operation.reply <;> rfl

end Operation

namespace Action

/-- What a call comes to whose message has been signed, or not, up to the request id. Nothing comes
of it as long as the transport gives no reply. -/
def outcome (action : Action ρ γ α) (noted : γ) (reply : Option (Attempt Response)) :
    Attempt RequestMessage → Option (Outcome α)
  | .error reason => some (.error (action.operation.shown reason))
  | .ok form =>
    match form.toHttp with
    | .error fault => some (.error fault.toCallError)
    | .ok _ =>
      if action.client.context.transport then
        match reply with
        | none => none
        | some (.error reason) => some (.error (action.operation.shown reason))
        | some (.ok response) => some (action.operation.reading noted response)
      else some (.error Context.noTransport)

/-- The table tells what the course of a flight comes to. -/
theorem outcome_eq (action : Action ρ γ α) (noted : γ) (reply : Option (Attempt Response))
    (signed : Attempt RequestMessage) :
    action.outcome noted reply signed =
      (action.course noted reply signed).map fun attempt =>
        attempt.mapError action.operation.shown := by
  unfold outcome course Client.answered
  cases signed with
  | error reason => rfl
  | ok form =>
    simp only
    cases form.toHttp with
    | error fault => rfl
    | ok travelling =>
      cases action.client.context.transport with
      | false => rfl
      | true =>
        rcases reply with _ | reason | response
        · rfl
        · rfl
        · exact congrArg some (action.operation.mapError_readReply noted response).symm

/-- What the caller is shown of an interruption is what the table tells, up to the request id. -/
theorem sameButId_failure (action : Action ρ γ α) (attempt : Attempt α) :
    Outcome.SameButId (attempt.mapError action.failure)
      (attempt.mapError action.operation.shown) := by
  have same (reason : Interruption) :
      (action.failure reason).anonymous = (action.operation.shown reason).anonymous := by
    cases reason with
    | failed error =>
      simp only [failure]
      split <;> rfl
    | brokeDown said => rfl
  cases attempt with
  | ok value => rfl
  | error reason => exact congrArg Except.error (same reason)

end Action

end

/-! ### What the world sees of a request -/

namespace Action

variable {ρ γ α : Type}

/-- What becomes of a request in the course of some events: the call, or the error that is given at
once. -/
def voyage (action : Action ρ γ α) (now : Moment) (insideRuntime callback : Bool)
    (custom : List (String × String)) (request : ρ) (reply : Option (Attempt Response))
    (events : List Underway.Event) : Except CallError (Underway α) :=
  (action.setOut now insideRuntime callback custom request).map (·.run reply events)

/-- What has been handed to the transport of a request. -/
def handedOver : Except CallError (Underway α) → List HttpRequest
  | .error _ => []
  | .ok call => call.flight.sent

/-- What the callback has been given. -/
def calledBack : Except CallError (Underway α) → List (Outcome α)
  | .error _ => []
  | .ok call => call.completion.delivered

end Action

/-! ### What the table says -/

namespace Completion

/-- A reader that gives the outcome once it is there and is announced, and else a timeout. -/
structure Reads {α : Type} (timeout : Span) (reader : Completion α → Outcome α) : Prop where
  done :
    ∀ completion result, completion.outcome = some result → completion.flag = true →
      reader completion = result
  late :
    ∀ completion, completion.outcome = none → completion.flag = false →
      reader completion = .error (completion.timedOut timeout)

theorem reads_get {α : Type} (timeout : Span) : Reads (α := α) timeout (·.get timeout) where
  done completion result ended _ := by rw [get, ended]
  late completion pending _ := by rw [get, pending]

theorem reads_wait {α : Type} (timeout : Span) : Reads (α := α) timeout (·.wait timeout) where
  done completion result ended raised := by rw [wait, if_pos raised, ended]
  late completion _ down := by rw [wait, down, if_neg Bool.false_ne_true]

end Completion

namespace Action

variable {ρ γ α : Type}

/-- What the table says about a request that is dispatched. -/
structure Fares (action : Action ρ γ α) (now : Moment) (insideRuntime callback : Bool)
    (custom : List (String × String)) (request : ρ) (reply : Option (Attempt Response)) : Prop where
  /-- Its error is given at once, nothing is sent, and nobody is called back. -/
  onGround :
    ∀ reason, action.Grounds insideRuntime request reason → ∀ events,
      let voyage := action.voyage now insideRuntime callback custom request reply events
      voyage = .error (action.withId reason) ∧ handedOver voyage = [] ∧ calledBack voyage = []
  /-- At most the request of its signed message is sent, and the call ends as the table tells. -/
  underWay :
    (∀ reason, ¬ action.Grounds insideRuntime request reason) →
      ∃ raw noted message, action.operation.build request = .ok (raw, noted) ∧
        action.message now custom request = .ok message ∧
          ∀ events, ∃ call,
            action.voyage now insideRuntime callback custom request reply events = .ok call ∧
              Flight.Handed (action.client.signed message (Underway.instants events))
                  call.flight.sent ∧
                (∀ result, call.completion.outcome = some result → ¬ call.ending.IsCancelled →
                  ∃ signed outcome,
                    action.client.signed message (Underway.instants events) = some signed ∧
                      action.outcome noted reply signed = some outcome ∧
                        result.SameButId outcome) ∧
                  ∀ result, call.Shows result →
                    (∃ timeout,
                      result =
                        .error ((CallError.lateness timeout).orRequestId action.requestId)) ∨
                        call.completion.outcome = some result

/-- What the table says about a request that is sent and waited for. -/
structure Returns (action : Action ρ γ α) (now : Moment) (insideRuntime : Bool)
    (custom : List (String × String)) (request : ρ) (reply : Option (Attempt Response))
    (cache : CredentialCache) (execution : Execution α) : Prop where
  onGround :
    ∀ reason, action.Grounds insideRuntime request reason →
      execution.sent = [] ∧ execution.result = .error (action.withId reason)
  /-- The caller gets what the table tells, or hears that the time is up if that is nothing. -/
  underWay :
    (∀ reason, ¬ action.Grounds insideRuntime request reason) →
      ∃ raw noted message signed, action.operation.build request = .ok (raw, noted) ∧
        action.message now custom request = .ok message ∧
          action.client.signedAlone now cache message = some signed ∧
            Flight.Handed (some signed) execution.sent ∧
              execution.result.Meets (action.outcome noted reply signed)
                ((CallError.lateness action.client.config.socketTimeout).orRequestId
                  action.requestId)

variable {action : Action ρ γ α} {now : Moment} {insideRuntime : Bool}
  {custom : List (String × String)} {request : ρ} {message : RequestMessage} {noted : γ}

/-- What a caller gets once a call on its course has come to rest. -/
theorem meets_of_atRest {reply : Option (Attempt Response)} {steps : List Instant}
    {signed : Attempt RequestMessage} (ready : action.client.signed message steps = some signed)
    {flight : Flight α} (follows : flight.Follows action noted message reply steps False)
    {completion : Completion α} (atRest : Dispatched.AtRest reply ⟨flight, completion⟩)
    {timeout : Span} {reader : Completion α → Outcome α}
    (reads : Completion.Reads timeout reader) :
    (reader completion).Meets (action.outcome noted reply signed)
      (completion.timedOut timeout) := by
  cases atRest with
  | waiting stage never unended down =>
    -- the request is on its way, and no reply ever comes
    obtain ⟨form, formed, comes⟩ := follows.course_of_waiting stage
    obtain rfl := Option.some.inj (ready.symm.trans formed)
    rw [outcome_eq, comes, never]
    exact reads.late completion unended down
  | ended stage stored raised =>
    have ended := (Flight.outcome?_eq_some flight).mpr stage
    obtain ⟨form, attempt, formed, comes, same⟩ := (follows.outcome_eq ended).resolve_left id
    obtain rfl := Option.some.inj (ready.symm.trans formed)
    rw [outcome_eq, comes, reads.done completion _ stored raised, same]
    exact action.sameButId_failure attempt

theorem returns_exchange (reply : Option (Attempt Response)) (cache : CredentialCache)
    {reader : Completion α → Outcome α}
    (reads : Completion.Reads action.client.config.socketTimeout reader) :
    action.Returns now insideRuntime custom request reply cache
      (action.exchange now insideRuntime custom reply request cache reader) where
  onGround reason grounds := by
    rw [exchange_of_grounds grounds]
    exact ⟨rfl, rfl⟩
  underWay free := by
    obtain ⟨start, setsOut⟩ := exists_setOut now false custom free
    obtain ⟨message, noted, prepares, supervised⟩ := Underway.supervised_setOut setsOut
    obtain ⟨raw, builds⟩ := exists_build prepares
    obtain ⟨signed, alone⟩ := action.client.exists_signedAlone now cache message
    obtain ⟨next, ⟨events, rfl, _⟩, atRest, follows, sent, result⟩ :=
      exchange_reached setsOut prepares reply cache reader
    have ready : action.client.signed message (start.flight.launchInstants now cache) =
        some signed := (signed_launchInstants setsOut prepares cache).trans alone
    have late := (Underway.supervised_run (supervised reply) events).reports.timedOut_eq
      action.client.config.socketTimeout
    refine ⟨raw, noted, message, signed, builds, message_of_prepare prepares, alone, ?_, ?_⟩
    · rw [sent, ← ready]
      exact follows.place.hands
    · rw [result]
      exact late ▸ meets_of_atRest ready follows atRest reads

/-- **Every call comes to what its operation says.** -/
theorem fares (action : Action ρ γ α) (now : Moment) (insideRuntime callback : Bool)
    (custom : List (String × String)) (request : ρ) (reply : Option (Attempt Response))
    (cache : CredentialCache) :
    action.Fares now insideRuntime callback custom request reply ∧
      action.Returns now insideRuntime custom request reply cache
          (action.execute now insideRuntime custom reply request cache) ∧
        action.Returns now true [] request reply cache (action.call now reply request cache) := by
  refine ⟨⟨?_, ?_⟩, returns_exchange reply cache (Completion.reads_get _),
    returns_exchange reply cache (Completion.reads_wait _)⟩
  · intro reason grounds events
    have failed : action.setOut now insideRuntime callback custom request = .error _ :=
      setOut_eq_error.mpr ⟨reason, grounds, rfl⟩
    simp only [voyage, failed]
    exact ⟨rfl, rfl, rfl⟩
  · intro free
    obtain ⟨start, setsOut⟩ := exists_setOut now callback custom free
    obtain ⟨message, noted, prepares, supervised⟩ := Underway.supervised_setOut setsOut
    obtain ⟨raw, builds⟩ := exists_build prepares
    refine ⟨raw, noted, message, builds, message_of_prepare prepares, ?_⟩
    intro events
    have later := Underway.supervised_run (supervised reply) events
    rw [List.nil_append] at later
    refine ⟨start.run reply events, ?_, later.follows.place.hands, ?_, fun _ => later.shown⟩
    · rw [voyage, setsOut]
      rfl
    · intro result stored notCancelled
      rcases later.outcome_eq stored with ⟨cancelled, _⟩ | ⟨signed, attempt, ready, comes, rfl⟩
      · exact absurd cancelled notCancelled
      · refine ⟨signed, _, ready, ?_, action.sameButId_failure attempt⟩
        rw [outcome_eq, comes]
        rfl

/-- A client that does not sign. -/
def openClient : Client :=
  { context := { transport := true, runtime := true }
    config := { endpoint := "http://host" }
    signer := none }

/-- An action whose operation notes the name of a queue and gives it back. -/
def echoing : Action String String String where
  operation :=
    { name := "Echo"
      method := .get
      build := fun name => .ok ({ method := .get, resourcePath := "/queues/" ++ name }, name)
      reply := .read fun noted _ => .ok noted
      refusal := fun _ => .brokeDown none }
  client := openClient
  requestId := none

/-- What is noted of a queue's name while the request is built comes back with its response. -/
theorem fares_echoing :
    ∃ call message signed outcome,
      echoing.voyage 0 false true [] "q1" (some (.ok ⟨⟨200⟩, [], []⟩)) Underway.repliedTo =
          .ok call ∧
        call.completion.outcome = some (.ok "q1") ∧
          echoing.message 0 [] "q1" = .ok message ∧
            openClient.signed message (Underway.instants Underway.repliedTo) = some signed ∧
              echoing.outcome "q1" (some (.ok ⟨⟨200⟩, [], []⟩)) signed = some outcome ∧
                Outcome.SameButId (.ok "q1") outcome := by
  have told :
      (match echoing.setOut 0 false true [] "q1" with
        | .ok start =>
          let call := start.run (some (.ok ⟨⟨200⟩, [], []⟩)) Underway.repliedTo
          decide (call.completion.outcome = some (.ok "q1")) &&
            call.ending.finishers.all fun finisher => !finisher.cancels
        | .error _ => false) = true := by decide +kernel
  split at told
  · rename_i start setsOut
    obtain ⟨ended, nobodyCancels⟩ := Bool.and_eq_true_iff.mp told
    have stored := of_decide_eq_true ended
    have free : ∀ reason, ¬ echoing.Grounds false "q1" reason := by
      intro reason grounds
      have failed := setsOut.symm.trans (setOut_eq_error.mpr ⟨reason, grounds, rfl⟩)
      cases failed
    have told := fares echoing 0 false true [] "q1" (some (.ok ⟨⟨200⟩, [], []⟩)) {}
    obtain ⟨raw, noted, message, builds, made, sails⟩ := told.1.underWay free
    cases builds
    obtain ⟨call, sets, _, ends, _⟩ := sails Underway.repliedTo
    rw [voyage, setsOut] at sets
    cases sets
    have notCancelled :
        ¬ (start.run (some (.ok ⟨⟨200⟩, [], []⟩)) Underway.repliedTo).ending.IsCancelled := by
      rintro ⟨finisher, member, cancels, _⟩
      have nobody := List.all_eq_true.mp nobodyCancels finisher member
      rw [cancels] at nobody
      cases nobody
    obtain ⟨signed, outcome, ready, tells, same⟩ := ends _ stored notCancelled
    refine ⟨_, message, signed, outcome, ?_, stored, made, ready, tells, same⟩
    rw [voyage, setsOut]
    rfl
  · cases told

end Action

end SignedQueue

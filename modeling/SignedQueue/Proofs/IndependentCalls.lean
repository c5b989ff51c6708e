import Mathlib
import SignedQueue.Queue.Client
import SignedQueue.Proofs.LoneCall
import SignedQueue.Proofs.RequestPaths
/-!
**Calls at the same time do not observe each other.** The calls of a queue client that has a fixed
credential or none share nothing that differs from call to call. Whatever order their steps come in,
each call ends as it would if it were the only one and got the same reply.

* `Flight.Beyond`: a flight that has got on by some steps;
* `QueueClient.alone`: what a call comes to that is the only one;
* `QueueTraffic`: the calls of a queue client, and the replies that the transport has for them;
* `QueueTraffic.Orderly.run`: every flight is on the course of its own call, whatever happens;
* `QueueTraffic.exists_outcome`: a call with enough turns ends;
* `QueueTraffic.outcome_eq_alone`: calls end as they would alone.
-/

namespace SignedQueue

/-! ### Getting on -/

namespace Flight

variable {α : Type}

/-- As many steps as bring any flight to where it needs an answer or has ended. -/
def ampleSteps : Nat := 6

theorem Stage.remaining_le (stage : Stage α) : stage.remaining ≤ ampleSteps := by
  cases stage with
  | signing call =>
    have few : call.stage.remaining ≤ 4 := by
      cases call.stage <;> simp [SignCall.Stage.remaining]
    exact Nat.add_le_add_right few 2
  | sending message => exact show 1 ≤ 6 by decide
  | waiting | ended outcome => exact Nat.zero_le _

/-- A flight that has got on by some steps at least. What it has ended with stays. -/
structure Beyond (steps : Nat) (flight next : Flight α) : Prop where
  fewer : next.stage.remaining ≤ flight.stage.remaining - steps
  ended : ∀ outcome, flight.outcome? = some outcome → next.outcome? = some outcome

namespace Beyond

variable {flight next last : Flight α} {steps more : Nat}

theorem refl (flight : Flight α) : Beyond 0 flight flight :=
  ⟨le_rfl, fun _ ended => ended⟩

theorem step (flight : Flight α) (now : Moment) (cache : CredentialCache) :
    Beyond 1 flight (flight.step now cache).2 where
  fewer := remaining_step now cache flight
  ended outcome ended := by rw [step_of_outcome ended, ended]

theorem land (flight : Flight α) (answer : Attempt Response) :
    Beyond 0 flight (flight.land answer) where
  fewer := by
    unfold Flight.land
    split
    · exact Nat.zero_le _
    · exact le_rfl
  ended outcome ended := by rw [land_of_outcome ended, ended]

theorem trans (first : Beyond steps flight next) (second : Beyond more next last) :
    Beyond (steps + more) flight last where
  fewer := by
    have fewer := first.fewer
    have others := second.fewer
    omega
  ended outcome ended := second.ended outcome (first.ended outcome ended)

theorem remaining_eq_zero (beyond : Beyond steps flight next) (enough : ampleSteps ≤ steps) :
    next.stage.remaining = 0 := by
  have fewer := beyond.fewer
  have most := flight.stage.remaining_le
  omega

end Beyond

/-- An answer ends a flight that has no step left without one. -/
theorem exists_outcome_land {flight : Flight α} (none : flight.stage.remaining = 0)
    (answer : Attempt Response) : ∃ outcome, (flight.land answer).outcome? = some outcome := by
  unfold Flight.land
  cases stage : flight.stage with
  | signing call | sending message =>
    rw [stage] at none
    cases none
  | waiting => exact ⟨_, rfl⟩
  | ended outcome => exact ⟨outcome, by rw [outcome?, stage]⟩

end Flight

/-! ### The calls of a queue client -/

/-- A flight that has ended at once, of a request that stays on the ground. -/
def Flight.grounded {α : Type} (context : Context) (error : CallError) : Flight α where
  context := context
  read _ := .error (.failed error)
  failure _ := error
  abandoned := error
  stage := .ended (.error error)

namespace Queue

/-- A call of a queue client: when and where it is begun, its request with the caller's own headers,
and the reply that the transport has for it, if there is one. -/
structure QueueCall where
  now : Moment
  insideRuntime : Bool
  custom : List (String × String)
  request : QueueRequest
  reply : Option (Attempt Response)

namespace QueueClient

/-- The action of one call. -/
def calling (queues : QueueClient) (call : QueueCall) :
    Action Unit (Response → Attempt QueueValue) QueueValue :=
  call.request.visit fun operation request _ wrap => (queues.action operation).closed request wrap

/-- What a call comes to that is the only one. -/
def alone (queues : QueueClient) (call : QueueCall) : Outcome QueueValue :=
  (queues.execute call.now call.insideRuntime call.custom call.reply call.request {}).result

/-- The flight of a call. -/
def flight (queues : QueueClient) (call : QueueCall) : Flight QueueValue :=
  match queues.takeOff call.now call.insideRuntime call.custom call.request with
  | .error error => .grounded queues.client.context error
  | .ok flight => flight

variable {queues : QueueClient} {call : QueueCall} {credential : Option Credential}

theorem client_calling (queues : QueueClient) (call : QueueCall) :
    (queues.calling call).client = queues.client := by
  unfold calling
  cases call.request <;> rfl

theorem takeOff_calling (queues : QueueClient) (call : QueueCall) :
    (queues.calling call).takeOff call.now call.insideRuntime call.custom () =
      queues.takeOff call.now call.insideRuntime call.custom call.request := by
  unfold calling takeOff
  cases call.request <;> exact Action.takeOff_closed _

theorem alone_of_error {error : CallError}
    (stays :
      (queues.calling call).takeOff call.now call.insideRuntime call.custom () = .error error) :
    queues.alone call = .error error := by
  unfold calling at stays
  unfold alone execute
  cases request : call.request <;> rw [request] at stays <;>
    exact Action.execute_closed_of_error _ stays

theorem alone_of_course {flight : Flight QueueValue} {message : RequestMessage}
    {reader : Response → Attempt QueueValue} {attempt : Attempt QueueValue}
    (fixed : queues.client.signer = credential.map Client.fixedSigner)
    (takesOff :
      (queues.calling call).takeOff call.now call.insideRuntime call.custom () = .ok flight)
    (prepares : (queues.calling call).prepare call.now call.custom () = .ok (message, reader))
    (comes :
      (queues.calling call).course reader call.reply (.ok (Scheme.form credential message)) =
        some attempt) :
    queues.alone call = attempt.mapError (queues.calling call).failure := by
  have keeps := CredentialCache.keepsOnly_empty credential
  unfold calling at takesOff prepares comes ⊢
  unfold alone execute
  cases request : call.request <;> rw [request] at takesOff prepares comes <;>
    exact Action.execute_closed_of_course _ fixed keeps takesOff prepares comes

end QueueClient

/-- The calls of a queue client that are under way at the same time. -/
structure QueueTraffic where
  calls : List QueueCall := []
  traffic : Traffic QueueValue := ⟨{}, []⟩

namespace QueueTraffic

/-- What happens to one of the calls. -/
inductive Event where
  | start (call : QueueCall)
  /-- The call at a place takes its next step. -/
  | advance (now : Moment) (place : Nat)
  /-- The transport gives its reply to the call at a place. -/
  | reply (place : Nat)

/-- The calls after an event. A reply that the transport does not have changes nothing. -/
def step (queues : QueueClient) (state : QueueTraffic) : Event → QueueTraffic
  | .start call =>
    { calls := state.calls ++ [call]
      traffic := state.traffic.step (.takeOff (queues.flight call)) }
  | .advance now place => { state with traffic := state.traffic.step (.advance now place) }
  | .reply place =>
    match state.calls[place]?.bind (·.reply) with
    | none => state
    | some answer => { state with traffic := state.traffic.step (.land place answer) }

/-- The calls after some events. -/
def run (queues : QueueClient) (state : QueueTraffic) (events : List Event) : QueueTraffic :=
  events.foldl (step queues) state

/-- The outcome of the call at a place, if it has ended. -/
def outcome? (state : QueueTraffic) (place : Nat) : Option (Outcome QueueValue) :=
  state.traffic.flights[place]?.bind Flight.outcome?

variable {queues : QueueClient} {credential : Option Credential} {state : QueueTraffic}
  {call : QueueCall} {flight : Flight QueueValue} {cache : CredentialCache} {place : Nat}

/-! ### Every flight is on its own course -/

/-- The messages that a response gives are those of its document, in the encoding that was noted. -/
theorem readReply_receive {encoding : BodyEncoding} {response : Response}
    {messages : List ReceivedMessage}
    (reads : receiveMessages.readReply encoding response = .ok messages) :
    ∃ root, Markup.Element.parse response.body = .ok root ∧
      ReceivedMessage.listOfElement encoding root = .ok messages := by
  unfold Operation.readReply at reads
  cases success : response.status.isSuccess with
  | false =>
    rw [success] at reads
    cases reads
  | true =>
    rw [success] at reads
    obtain ⟨root, document, shown⟩ := bind_eq_ok.mp (mapError_eq_ok.mp reads)
    exact ⟨root, mapError_eq_ok.mp document, shown⟩

/-- The flights that a call may have while others go on: one that has ended at once, or one on the
course of this call. -/
inductive Serves (queues : QueueClient) (credential : Option Credential) (call : QueueCall) :
    Flight QueueValue → Prop
  | grounded {error : CallError}
    (stays :
      (queues.calling call).takeOff call.now call.insideRuntime call.custom () = .error error) :
    Serves queues credential call (.grounded queues.client.context error)
  | flying {start flight : Flight QueueValue} {message : RequestMessage}
    {reader : Response → Attempt QueueValue} {instants : List Instant}
    (takesOff :
      (queues.calling call).takeOff call.now call.insideRuntime call.custom () = .ok start)
    (prepares : (queues.calling call).prepare call.now call.custom () = .ok (message, reader))
    (follows : flight.Follows (queues.calling call) reader message call.reply instants False)
    (past : ∀ instant ∈ instants, instant.2.KeepsOnly credential) :
    Serves queues credential call flight

namespace Serves

theorem start (queues : QueueClient) (credential : Option Credential) (call : QueueCall) :
    Serves queues credential call (queues.flight call) := by
  unfold QueueClient.flight
  rw [← QueueClient.takeOff_calling]
  cases takesOff : (queues.calling call).takeOff call.now call.insideRuntime call.custom () with
  | error error => exact .grounded takesOff
  | ok flight =>
    obtain ⟨message, reader, prepares, _⟩ := Action.takeOff_eq_ok.mp takesOff
    exact .flying takesOff prepares (Action.follows_takeOff takesOff prepares call.reply False)
      nofun

/-- A step of a call keeps it on its own course, and keeps no credential but the client's. -/
theorem step (serves : Serves queues credential call flight)
    (fixed : queues.client.signer = credential.map Client.fixedSigner)
    (keeps : cache.KeepsOnly credential) (now : Moment) :
    Serves queues credential call (flight.step now cache).2 ∧
      (flight.step now cache).1.KeepsOnly credential := by
  cases serves with
  | grounded stays => exact ⟨.grounded stays, keeps⟩
  | flying takesOff prepares follows past =>
    rw [← QueueClient.client_calling queues call] at fixed
    refine ⟨.flying takesOff prepares (follows.step now cache) ?_,
      follows.keepsOnly_step fixed past keeps now⟩
    rw [List.forall_mem_append]
    exact ⟨past, List.forall_mem_singleton.mpr keeps⟩

theorem land (serves : Serves queues credential call flight) {answer : Attempt Response}
    (arrives : call.reply = some answer) : Serves queues credential call (flight.land answer) := by
  cases serves with
  | grounded stays => exact .grounded stays
  | flying takesOff prepares follows past =>
    exact .flying takesOff prepares (follows.land arrives) past

/-- A call ends with what it comes to if it is the only one. -/
theorem outcome_eq (serves : Serves queues credential call flight)
    (fixed : queues.client.signer = credential.map Client.fixedSigner)
    {outcome : Outcome QueueValue} (ended : flight.outcome? = some outcome) :
    outcome = queues.alone call := by
  cases serves with
  | grounded stays =>
    cases ended
    exact (QueueClient.alone_of_error stays).symm
  | flying takesOff prepares follows past =>
    have same := fixed
    rw [← QueueClient.client_calling queues call] at same
    obtain ⟨attempt, comes, rfl⟩ := follows.outcome_fixed same past ended
    exact (QueueClient.alone_of_course fixed takesOff prepares comes).symm

/-- What a receiver gets is read in its own reply and in its own encoding. -/
theorem received (serves : Serves queues credential call flight) {receive : ReceiveRequest}
    (receives : call.request = .receiveMessages receive) {value : QueueValue}
    (ended : flight.outcome? = some (.ok value)) :
    ∃ response root messages, call.reply = some (.ok response) ∧
      Markup.Element.parse response.body = .ok root ∧
        ReceivedMessage.listOfElement receive.encoding root = .ok messages ∧
          value = .messages messages := by
  cases serves with
  | grounded stays => cases ended
  | flying takesOff prepares follows past =>
    obtain ⟨signed, attempt, _, comes, same⟩ := (follows.outcome_eq ended).resolve_left id
    obtain rfl : attempt = .ok value := mapError_eq_ok.mp same.symm
    obtain ⟨response, replied, reads⟩ := Action.course_eq_ok comes
    unfold QueueClient.calling at prepares reads
    rw [receives] at prepares reads
    obtain ⟨⟨_, encoding⟩, own, same⟩ :=
      map_eq_ok.mp ((Action.prepare_closed _).symm.trans prepares)
    cases same
    -- the encoding that was noted with the message is the receiver's
    obtain ⟨_, builds⟩ := Action.exists_build own
    obtain rfl : encoding = receive.encoding :=
      (QueueRequest.receiveMessages receive).visit_notes _ _ builds
    have closed := Operation.readReply_closed receiveMessages receive QueueValue.messages
      receive.encoding response
    obtain ⟨messages, decodes, rfl⟩ := map_eq_ok.mp (closed.symm.trans reads)
    obtain ⟨root, parses, shown⟩ := readReply_receive decodes
    exact ⟨response, root, messages, replied, parses, shown, rfl⟩

end Serves

/-- Calls at the same time, each of which is on its own course. -/
structure Orderly (queues : QueueClient) (credential : Option Credential) (state : QueueTraffic) :
    Prop where
  keeps : state.traffic.cache.KeepsOnly credential
  serve : List.Forall₂ (Serves queues credential) state.calls state.traffic.flights

namespace Orderly

/-- Every call has a flight at its place, which may be replaced by any that serves it. -/
theorem at_place (orderly : Orderly queues credential state) (place : Nat) :
    state.calls[place]? = none ∧ state.traffic.flights[place]? = none ∨
      ∃ call flight, state.calls[place]? = some call ∧
        state.traffic.flights[place]? = some flight ∧ Serves queues credential call flight ∧
          ∀ next, Serves queues credential call next →
            List.Forall₂ (Serves queues credential) state.calls
              (state.traffic.flights.set place next) := by
  refine (forall₂_place orderly.serve place).imp_right ?_
  rintro ⟨call, flight, begun, found, serves, put⟩
  refine ⟨call, flight, begun, found, serves, fun next further => ?_⟩
  obtain ⟨bound, same⟩ := List.getElem?_eq_some_iff.mp begun
  have calls := put call next further
  rw [← same, List.set_getElem_self] at calls
  exact calls

theorem step (orderly : Orderly queues credential state)
    (fixed : queues.client.signer = credential.map Client.fixedSigner) (event : Event) :
    Orderly queues credential (state.step queues event) := by
  cases event with
  | start call =>
    exact ⟨orderly.keeps,
      List.rel_append orderly.serve (.cons (.start queues credential call) .nil)⟩
  | advance now place =>
    simp only [QueueTraffic.step, Traffic.step]
    rcases orderly.at_place place with ⟨_, absent⟩ | ⟨call, flight, _, found, serves, put⟩
    · rw [absent]
      exact orderly
    · rw [found]
      obtain ⟨further, keeps⟩ := serves.step fixed orderly.keeps now
      exact ⟨keeps, put _ further⟩
  | reply place =>
    simp only [QueueTraffic.step, Traffic.step]
    rcases orderly.at_place place with ⟨absent, _⟩ | ⟨call, flight, begun, found, serves, put⟩
    · rw [absent]
      exact orderly
    · rw [begun, found]
      cases arrives : call.reply with
      | none =>
        simp only [Option.bind_some, arrives]
        exact orderly
      | some answer =>
        simp only [Option.bind_some, arrives]
        exact ⟨orderly.keeps, put _ (serves.land arrives)⟩

theorem run (orderly : Orderly queues credential state)
    (fixed : queues.client.signer = credential.map Client.fixedSigner) (events : List Event) :
    Orderly queues credential (state.run queues events) := by
  induction events generalizing state with
  | nil => exact orderly
  | cons event rest ih => exact ih (orderly.step fixed event)

end Orderly

/-! ### Calls get on -/

/-- Whether an event is a step of the call at a place. -/
def Event.isTurn (place : Nat) : Event → Bool
  | .advance _ other => other = place
  | _ => false

section

variable (queues)

theorem exists_beyond_step (found : state.traffic.flights[place]? = some flight) (event : Event) :
    ∃ next, (state.step queues event).traffic.flights[place]? = some next ∧
      flight.Beyond (if event.isTurn place then 1 else 0) next := by
  have within : place < state.traffic.flights.length := (List.getElem?_eq_some_iff.mp found).1
  cases event with
  | start call => exact ⟨flight, (List.getElem?_append_left within).trans found, .refl flight⟩
  | advance now other =>
    simp only [QueueTraffic.step, Traffic.step, Event.isTurn, decide_eq_true_eq]
    by_cases same : other = place
    · subst same
      rw [found, if_pos rfl]
      exact ⟨_, List.getElem?_set_self within, .step flight now state.traffic.cache⟩
    · rw [if_neg same]
      cases state.traffic.flights[other]? with
      | none => exact ⟨flight, found, .refl flight⟩
      | some moved => exact ⟨flight, (List.getElem?_set_ne same).trans found, .refl flight⟩
  | reply other =>
    simp only [QueueTraffic.step, Traffic.step, Event.isTurn]
    cases state.calls[other]?.bind (·.reply) with
    | none => exact ⟨flight, found, .refl flight⟩
    | some answer =>
      by_cases same : other = place
      · subst same
        rw [found]
        exact ⟨_, List.getElem?_set_self within, .land flight answer⟩
      · cases state.traffic.flights[other]? with
        | none => exact ⟨flight, found, .refl flight⟩
        | some moved => exact ⟨flight, (List.getElem?_set_ne same).trans found, .refl flight⟩

theorem exists_beyond_run (found : state.traffic.flights[place]? = some flight)
    (events : List Event) :
    ∃ next, (state.run queues events).traffic.flights[place]? = some next ∧
      flight.Beyond (events.countP (·.isTurn place)) next := by
  induction events generalizing state flight with
  | nil => exact ⟨flight, found, .refl flight⟩
  | cons event rest ih =>
    obtain ⟨next, moved, first⟩ := exists_beyond_step queues found event
    obtain ⟨last, moves, others⟩ := ih moved
    refine ⟨last, moves, ?_⟩
    rw [List.countP_cons, Nat.add_comm]
    exact first.trans others

/-- No event takes a call away. -/
theorem calls_run (begun : state.calls[place]? = some call) (events : List Event) :
    (state.run queues events).calls[place]? = some call := by
  induction events generalizing state with
  | nil => exact begun
  | cons event rest ih =>
    refine ih ?_
    cases event with
    | start other =>
      exact (List.getElem?_append_left (List.getElem?_eq_some_iff.mp begun).1).trans begun
    | advance now other => exact begun
    | reply other =>
      simp only [QueueTraffic.step]
      split <;> exact begun

/-- A call ends that has had as many turns as it needs when its reply comes. -/
theorem exists_outcome (begun : state.calls[place]? = some call)
    (found : state.traffic.flights[place]? = some flight) {answer : Attempt Response}
    (arrives : call.reply = some answer) {between : List Event}
    (enough : Flight.ampleSteps ≤ between.countP (·.isTurn place)) (after : List Event) :
    ∃ outcome,
      (state.run queues (between ++ .reply place :: after)).outcome? place = some outcome := by
  obtain ⟨next, moved, beyond⟩ := exists_beyond_run queues found between
  obtain ⟨outcome, ended⟩ := next.exists_outcome_land (beyond.remaining_eq_zero enough) answer
  have replied : ((state.run queues between).step queues (.reply place)).traffic.flights[place]? =
      some (next.land answer) := by
    simp only [QueueTraffic.step, Traffic.step, calls_run queues begun, Option.bind_some, arrives,
      moved]
    exact List.getElem?_set_self (List.getElem?_eq_some_iff.mp moved).1
  obtain ⟨last, moves, further⟩ := exists_beyond_run queues replied after
  refine ⟨outcome, ?_⟩
  rw [run, List.foldl_append, List.foldl_cons, outcome?]
  exact (congrArg (Option.bind · Flight.outcome?) moves).trans (further.ended outcome ended)

end

/-- Every call that has been begun has a flight on its course. -/
theorem exists_serving (fixed : queues.client.signer = credential.map Client.fixedSigner)
    {events : List Event} (begun : (run queues {} events).calls[place]? = some call) :
    ∃ flight, (run queues {} events).traffic.flights[place]? = some flight ∧
      Serves queues credential call flight := by
  have start : Orderly queues credential {} :=
    ⟨CredentialCache.keepsOnly_empty credential, .nil⟩
  rcases (start.run fixed events).at_place place with
    ⟨absent, _⟩ | ⟨other, flight, same, found, serves, _⟩
  · cases absent.symm.trans begun
  · obtain rfl := Option.some.inj (same.symm.trans begun)
    exact ⟨flight, found, serves⟩

/-- **Calls at the same time end as they would alone.** Of a client with a fixed credential or none,
each call ends with what it comes to if it is the only one and gets the same reply, whatever happens
to the calls beside it. What a receiver gets is read in its own reply and its own encoding. A call
that has had as many turns as it needs ends when its reply comes. -/
theorem outcome_eq_alone (fixed : queues.client.signer = credential.map Client.fixedSigner)
    (events : List Event) (place : Nat) (call : QueueCall)
    (begun : (run queues {} events).calls[place]? = some call) :
    (∀ outcome, (run queues {} events).outcome? place = some outcome →
      outcome = queues.alone call ∧
        ∀ receive value, call.request = .receiveMessages receive → outcome = .ok value →
          ∃ response root messages, call.reply = some (.ok response) ∧
            Markup.Element.parse response.body = .ok root ∧
              ReceivedMessage.listOfElement receive.encoding root = .ok messages ∧
                value = .messages messages) ∧
      ∀ answer between after, call.reply = some answer →
        Flight.ampleSteps ≤ between.countP (·.isTurn place) →
          (run queues {} (events ++ between ++ .reply place :: after)).outcome? place =
            some (queues.alone call) := by
  constructor
  · intro outcome ended
    obtain ⟨flight, found, serves⟩ := exists_serving fixed begun
    rw [outcome?, found] at ended
    refine ⟨serves.outcome_eq fixed ended, ?_⟩
    rintro receive value receives rfl
    exact serves.received receives ended
  · intro answer between after arrives enough
    have goesOn : run queues {} (events ++ between ++ .reply place :: after) =
        (run queues {} events).run queues (between ++ .reply place :: after) := by
      rw [List.append_assoc, run, List.foldl_append]
      rfl
    obtain ⟨flight, found, _⟩ := exists_serving fixed begun
    obtain ⟨outcome, ended⟩ := exists_outcome queues begun found arrives enough after
    have begun' := calls_run queues begun (between ++ .reply place :: after)
    rw [← goesOn] at ended begun'
    obtain ⟨last, moves, serves⟩ := exists_serving fixed begun'
    rw [ended]
    rw [outcome?, moves] at ended
    exact congrArg some (serves.outcome_eq fixed ended)

/-- A client with a fixed pair of keys. -/
def keyedClient : QueueClient where
  client :=
    { context := { transport := true, runtime := true }
      config := { endpoint := "http://host" }
      signer := some (Client.fixedSigner ⟨"AK", "SK", none, none⟩) }
  freshId name := name

/-- A message that is received, whose body is a text that also stands for octets. -/
def received : Response where
  status := ⟨200⟩
  headers := []
  body := Utf8.encode
    ("<Message><MessageId>1</MessageId><ReceiptHandle>h</ReceiptHandle>" ++
      "<MessageBody>aGk=</MessageBody></Message>")

/-- A call that receives the message in an encoding. -/
def receiving (encoding : BodyEncoding) : QueueCall :=
  ⟨0, true, [], .receiveMessages { queueName := "jobs", encoding }, some (.ok received)⟩

/-- Two calls take turns to receive the same message, and the body is decoded for the one that asks
for that. -/
theorem outcome_eq_alone_receivers :
    let events : List Event := [.start (receiving .raw), .start (receiving .base64)]
    let turns : List Event := (List.replicate 6 [.advance 0 0, .advance 5 1]).flatten
    let last := run keyedClient {} (events ++ turns ++ [.reply 1, .reply 0])
    let message : ReceivedMessage :=
      ⟨"1", "h", none, Utf8.encode "hi", none, none, none, none, none⟩
    last.outcome? 0 = some (keyedClient.alone (receiving .raw)) ∧
      last.outcome? 1 = some (.ok (.messages [message])) ∧
        ∃ root, Markup.Element.parse received.body = .ok root ∧
          ReceivedMessage.listOfElement .base64 root = .ok [message] := by
  intro events turns last message
  have fixed : keyedClient.client.signer =
      (some ⟨"AK", "SK", none, none⟩ : Option Credential).map Client.fixedSigner := rfl
  have raw := (outcome_eq_alone fixed events 0 (receiving .raw) rfl).2 _ (turns ++ [.reply 1]) []
    rfl (by decide)
  have decoded := (outcome_eq_alone fixed events 1 (receiving .base64) rfl).2 _ turns [.reply 0]
    rfl (by decide)
  rw [show keyedClient.alone (receiving .base64) = .ok (.messages [message]) by decide +kernel]
    at decoded
  obtain ⟨_, reads⟩ := (outcome_eq_alone fixed _ 1 (receiving .base64) rfl).1 _ decoded
  obtain ⟨response, root, messages, replied, parses, lists, same⟩ := reads _ _ rfl rfl
  cases replied
  cases same
  exact ⟨raw, decoded, root, parses, lists⟩

end QueueTraffic

end Queue

end SignedQueue

import Mathlib
import SignedQueue.Proofs.Supervision
/-!
**Calls that nothing comes between.** A request that is sent and waited for, and a dispatched call
that is answered or cancelled, are calls that have set out and take their steps in a row. So what
holds of a call in every order of events holds of them, and they come to rest.

* `Underway.Reaches`: what some events make of a call;
* `Underway.exists_reaches_settle`, `Underway.exists_reaches_answer`,
  `Underway.exists_reaches_cancel`: what becomes of a dispatched call is some events in a row;
* `Client.signedAlone`, `Action.signed_launchInstants`: signing while no other call goes on;
* `Action.dispatch_reached`, `Action.exchange_reached`: sending a request, and waiting for it;
* `Dispatched.AtRest`: what such a call has come to.
-/

namespace SignedQueue

variable {α : Type}

/-! ### Steps in a row -/

namespace Ending

variable {ending : Ending α} {place : Nat} {finisher : Finisher α}

theorem completion_run_replicate (found : ending.finishers[place]? = some finisher) (count : Nat) :
    (ending.run (List.replicate count place)).completion =
      (finisher.steps count ending.completion).1 := by
  induction count generalizing ending finisher with
  | zero => rfl
  | succ count ih =>
    have later := ih (getElem?_step_self found)
    rw [completion_step found] at later
    exact later

/-- An attempt that has just begun and gets all its turns in a row. -/
theorem completion_run_add (ending : Ending α) (finisher : Finisher α) :
    ((ending.add finisher).run
        (List.replicate finisher.stage.remaining ending.finishers.length)).completion =
      (finisher.finish ending.completion).1 :=
  completion_run_replicate List.getElem?_concat_length _

end Ending

namespace Completion

variable {completion : Completion α}

theorem outcome_complete_ne (completion : Completion α) (result : Outcome α) :
    (completion.complete result).1.outcome ≠ none := by
  cases outcome : completion.outcome with
  | none =>
    rw [(complete_of_none outcome result).1]
    exact Option.some_ne_none _
  | some stored =>
    rw [(complete_of_outcome outcome result).1, outcome]
    exact Option.some_ne_none _

theorem outcome_cancel_ne (completion : Completion α) : completion.cancel.1.outcome ≠ none := by
  cases outcome : completion.outcome <;> cases holds : completion.holdsCallback <;>
    simp [cancel, Finisher.finish, Finisher.cancelling, Finisher.Stage.remaining, Finisher.steps,
      Finisher.step, outcome, holds]

end Completion

namespace Underway

/-- The call as its handle shows it. -/
def dispatched (call : Underway α) : Dispatched α :=
  ⟨call.flight, call.completion⟩

/-- Some events make the next call of a call, with steps of its flight at these instants. -/
def Reaches (reply : Option (Attempt Response)) (call : Underway α) (steps : List Instant)
    (next : Underway α) : Prop :=
  ∃ events, call.run reply events = next ∧ instants events = steps

variable {reply : Option (Attempt Response)} {call next last : Underway α}
  {steps more : List Instant}

theorem Reaches.refl (call : Underway α) : call.Reaches reply [] call :=
  ⟨[], rfl, rfl⟩

theorem Reaches.trans (first : call.Reaches reply steps next)
    (second : next.Reaches reply more last) : call.Reaches reply (steps ++ more) last := by
  obtain ⟨events, rfl, rfl⟩ := first
  obtain ⟨others, rfl, rfl⟩ := second
  refine ⟨events ++ others, ?_, ?_⟩
  · rw [run, List.foldl_append, ← run, ← run]
  · rw [instants, List.filterMap_append, ← instants, ← instants]

theorem reaches_step (reply : Option (Attempt Response)) (call : Underway α) (event : Event) :
    call.Reaches reply event.instant?.toList (call.step reply event) := by
  refine ⟨[event], rfl, ?_⟩
  cases event <;> rfl

theorem reaches_turns (reply : Option (Attempt Response)) (call : Underway α) (place count : Nat) :
    call.Reaches reply []
      { call with ending := call.ending.run (List.replicate count place) } := by
  induction count generalizing call with
  | zero => exact .refl call
  | succ count ih => exact (call.reaches_step reply (.turn place)).trans (ih _)

/-- The call after an attempt to end it that begins and gets all its turns in a row. -/
def finish (call : Underway α) (finisher : Finisher α) : Underway α :=
  { call with
    ending :=
      (call.ending.add finisher).run
        (List.replicate finisher.stage.remaining call.ending.finishers.length) }

@[simp]
theorem completion_finish (call : Underway α) (finisher : Finisher α) :
    (call.finish finisher).completion = (finisher.finish call.completion).1 :=
  call.ending.completion_run_add finisher

/-- A call whose supervisor has not begun to report, or is done with it. -/
def Quiet (call : Underway α) : Prop :=
  call.reported = true → call.completion.outcome ≠ none

/-- Completing a call whose flight has ended is some events in a row. -/
theorem exists_reaches_settle (reply : Option (Attempt Response)) (quiet : call.Quiet) :
    ∃ next, call.Reaches reply [] next ∧ next.dispatched = call.dispatched.settle ∧ next.Quiet := by
  cases ended : call.flight.outcome? with
  | none =>
    have same : call.dispatched.settle = call.dispatched := by
      simp only [Dispatched.settle, dispatched, ended]
    exact ⟨call, .refl call, same.symm, quiet⟩
  | some outcome =>
    have settles : call.dispatched.settle =
        ⟨call.flight, (call.completion.complete outcome).1⟩ := by
      simp only [Dispatched.settle, dispatched, ended]
    rw [settles]
    cases reported : call.reported with
    | true =>
      -- the call has its outcome, and completing it again changes nothing
      obtain ⟨stored, done⟩ := Option.ne_none_iff_exists'.mp (quiet reported)
      refine ⟨call, .refl call, ?_, quiet⟩
      rw [(Completion.complete_of_outcome done outcome).1, dispatched]
    | false =>
      have begun : call.step reply .report =
          { call with ending := call.ending.add (.completing outcome), reported := true } := by
        simp only [step, report, reported, ended]
      have reaches := (call.reaches_step reply .report).trans
        (reaches_turns reply _ call.ending.finishers.length 6)
      rw [begun] at reaches
      have ends : (call.finish (.completing outcome)).completion =
          (call.completion.complete outcome).1 := call.completion_finish _
      refine ⟨_, reaches, congrArg (Dispatched.mk call.flight) ends, ?_⟩
      intro _ missing
      exact Completion.outcome_complete_ne call.completion outcome (ends ▸ missing)

/-- The arrival of an answer is some events in a row. -/
theorem exists_reaches_answer (quiet : call.Quiet) (answer : Attempt Response) :
    ∃ next, call.Reaches (some answer) [] next ∧ next.dispatched = call.dispatched.answer answer ∧
      next.Quiet := by
  have quietAfter : (call.step (some answer) .land).Quiet := quiet
  obtain ⟨next, reaches, same, nextQuiet⟩ := exists_reaches_settle (some answer) quietAfter
  exact ⟨next, (call.reaches_step (some answer) .land).trans reaches, same, nextQuiet⟩

theorem dispatched_abort (reply : Option (Attempt Response)) (call : Underway α) :
    (call.step reply .abort).dispatched =
      ⟨if call.completion.aborted then call.flight.abort else call.flight, call.completion⟩ := by
  unfold step completion
  cases aborted : call.ending.completion.aborted <;> simp [dispatched, completion]

/-- Cancelling a call is some events in a row. -/
theorem exists_reaches_cancel (reply : Option (Attempt Response)) (call : Underway α) :
    ∃ next, call.Reaches reply [] next ∧ next.dispatched = call.dispatched.cancel.1 ∧
      next.Quiet := by
  let cancelled := call.finish (.cancelling call.completion)
  have ends : cancelled.completion = call.completion.cancel.1 := call.completion_finish _
  have stopped := dispatched_abort reply cancelled
  rw [ends] at stopped
  have quiet : (cancelled.step reply .abort).Quiet := by
    intro _
    have kept : (cancelled.step reply .abort).completion = call.completion.cancel.1 :=
      congrArg Dispatched.completion stopped
    rw [kept]
    exact Completion.outcome_cancel_ne _
  obtain ⟨next, reaches, same, nextQuiet⟩ := exists_reaches_settle reply quiet
  refine ⟨next, ?_, ?_, nextQuiet⟩
  · exact (((call.reaches_step reply .cancel).trans (reaches_turns reply _ _ 7)).trans
      (cancelled.reaches_step reply .abort)).trans reaches
  · rw [same, stopped]
    rfl

end Underway

/-! ### Signing -/

namespace Flight

/-- The instants at which a flight takes some steps in a row, all at the same time. -/
def instants (now : Moment) : Nat → CredentialCache → Flight α → List Instant
  | 0, _, _ => []
  | count + 1, cache, flight =>
    let next := flight.step now cache
    (now, cache) :: instants now count next.1 next.2

/-- The instants at which a flight takes its steps up to the one that needs an answer. -/
def launchInstants (now : Moment) (cache : CredentialCache) (flight : Flight α) : List Instant :=
  flight.instants now flight.stage.remaining cache

/-- While a flight signs, its steps are those of the call that signs. -/
theorem after_instants {flight : Flight α} {call : SignCall}
    (signing : flight.stage = .signing call) (now : Moment) (count : Nat)
    (cache : CredentialCache) :
    call.after (flight.instants now count cache) = (call.steps now count cache).2 := by
  induction count generalizing cache flight call with
  | zero => rfl
  | succ count ih =>
    have moved : flight.step now cache =
        ((call.step now cache).1, flight.afterSigning (call.step now cache).2) := by
      rw [step, signing]
    rw [instants, moved, SignCall.after, List.foldl_cons, ← SignCall.after, SignCall.steps]
    -- once the call that signs has ended, the flight goes on without it and it stays as it is
    cases result : (call.step now cache).2.result? with
    | none =>
      refine ih ?_ _
      rw [afterSigning, result]
    | some attempt =>
      rw [SignCall.after_of_result result, SignCall.steps_of_result result]

end Flight

/-- What a client makes of a message while no other call goes on. -/
def Client.signedAlone (client : Client) (now : Moment) (cache : CredentialCache)
    (message : RequestMessage) : Option (Attempt RequestMessage) :=
  match client.signer with
  | none => some (.ok message)
  | some signer => (signer.sign now cache message).2.signed?

theorem Client.exists_signedAlone (client : Client) (now : Moment) (cache : CredentialCache)
    (message : RequestMessage) : ∃ signed, client.signedAlone now cache message = some signed := by
  unfold signedAlone
  cases client.signer with
  | none => exact ⟨_, rfl⟩
  | some signer =>
    obtain ⟨result, ended⟩ := (signer.call message).finish_ends now cache
    exact ⟨_, Option.map_eq_some_iff.mpr ⟨result, ended, rfl⟩⟩

namespace Action

variable {ρ γ : Type} {action : Action ρ γ α} {now : Moment} {insideRuntime callback : Bool}
  {custom : List (String × String)} {request : ρ} {start : Underway α}

/-- A call that nothing comes between signs its message alone. -/
theorem signed_launchInstants {message : RequestMessage} {noted : γ}
    (setsOut : action.setOut now insideRuntime callback custom request = .ok start)
    (prepares : action.prepare now custom request = .ok (message, noted))
    (cache : CredentialCache) :
    action.client.signed message (start.flight.launchInstants now cache) =
      action.client.signedAlone now cache message := by
  obtain ⟨flight, takesOff, rfl⟩ := map_eq_ok.mp setsOut
  obtain ⟨_, _, same, _, rfl⟩ := takeOff_eq_ok.mp takesOff
  cases same.symm.trans prepares
  unfold Client.signed Client.signedAlone Flight.launchInstants
  cases signs : action.client.signer with
  | none => rfl
  | some signer =>
    have signing : action.firstStage message = .signing (signer.call message) := by
      rw [firstStage, signs]
    simp only [signing]
    rw [Flight.after_instants rfl, Flight.Stage.remaining, SignCall.steps_remaining_add]
    rfl

end Action

/-! ### Sending a request -/

namespace Underway

theorem reaches_steps (call : Underway α) (reply : Option (Attempt Response)) (now : Moment)
    (count : Nat) (cache : CredentialCache) :
    call.Reaches reply (call.flight.instants now count cache)
      { call with flight := (call.flight.steps now count cache).2 } := by
  induction count generalizing cache call with
  | zero => exact .refl call
  | succ count ih => exact (call.reaches_step reply (.advance now cache)).trans (ih _ _)

end Underway

theorem Flight.Follows.steps {ρ γ : Type} {action : Action ρ γ α} {noted : γ}
    {message : RequestMessage} {reply : Option (Attempt Response)} {instants : List Instant}
    {aborted : Prop} {flight : Flight α}
    (follows : flight.Follows action noted message reply instants aborted) (now : Moment)
    (count : Nat) (cache : CredentialCache) :
    (flight.steps now count cache).2.Follows action noted message reply
      (instants ++ flight.instants now count cache) aborted := by
  induction count generalizing cache flight instants with
  | zero =>
    rw [Flight.instants, List.append_nil]
    exact follows
  | succ count ih =>
    have later := ih (follows.step now cache) (flight.step now cache).1
    rw [List.append_assoc] at later
    exact later

namespace Dispatched

/-- A call whose handle shows what its flight has ended with, if it has. -/
def Agrees (call : Dispatched α) : Prop :=
  call.completion.outcome = call.flight.outcome? ∧
    call.completion.flag = call.flight.outcome?.isSome

/-- A call that has ended, or waits for a reply that never comes. -/
inductive AtRest (reply : Option (Attempt Response)) (call : Dispatched α) : Prop
  | waiting (stage : call.flight.stage = .waiting) (never : reply = none)
    (unended : call.completion.outcome = none) (down : call.completion.flag = false)
  | ended {outcome : Outcome α} (stage : call.flight.stage = .ended outcome)
    (stored : call.completion.outcome = some outcome) (raised : call.completion.flag = true)

variable {call : Dispatched α}

theorem flight_settle (call : Dispatched α) : call.settle.flight = call.flight := by
  unfold settle
  split <;> rfl

theorem agrees_settle
    (either : call.completion.outcome = none ∧ call.completion.flag = false ∨ call.Agrees) :
    call.settle.Agrees := by
  unfold Agrees
  rw [flight_settle]
  unfold settle
  cases ended : call.flight.outcome? with
  | none =>
    rcases either with pending | agrees
    · exact pending
    · rw [Agrees, ended] at agrees
      exact agrees
  | some outcome =>
    rcases either with ⟨pending, _⟩ | agrees
    · obtain ⟨stored, raised, _⟩ := Completion.complete_of_none pending outcome
      exact ⟨stored, raised⟩
    · rw [Agrees, ended] at agrees
      simp only [(Completion.complete_of_outcome agrees.1 outcome).1]
      exact agrees

theorem Agrees.of_waiting (agrees : call.Agrees) (waiting : call.flight.stage = .waiting) :
    call.completion.outcome = none ∧ call.completion.flag = false := by
  rw [Agrees, Flight.outcome?, waiting] at agrees
  exact agrees

theorem Agrees.of_ended (agrees : call.Agrees) {outcome : Outcome α}
    (ended : call.flight.stage = .ended outcome) :
    call.completion.outcome = some outcome ∧ call.completion.flag = true := by
  rw [Agrees, Flight.outcome?, ended] at agrees
  exact agrees

theorem atRest_answer (agrees : call.Agrees)
    (settled : call.flight.stage = .waiting ∨ ∃ outcome, call.flight.stage = .ended outcome)
    (answer : Attempt Response) : (call.answer answer).AtRest (some answer) := by
  have landed : (call.answer answer).flight = call.flight.land answer := flight_settle _
  unfold Flight.land at landed
  -- an answer ends a flight that waits for it, and is lost on one that has ended
  rcases settled with waiting | ⟨outcome, ended⟩
  · have settles : (call.answer answer).Agrees := agrees_settle (.inl (agrees.of_waiting waiting))
    rw [waiting] at landed
    have stage := congrArg Flight.stage landed
    obtain ⟨stored, raised⟩ := settles.of_ended stage
    exact .ended stage stored raised
  · rw [ended] at landed
    have settles : (call.answer answer).Agrees := by
      refine agrees_settle (.inr ?_)
      rw [Flight.land, ended]
      exact agrees
    have stage := (congrArg Flight.stage landed).trans ended
    obtain ⟨stored, raised⟩ := settles.of_ended stage
    exact .ended stage stored raised

end Dispatched

namespace Action

variable {ρ γ : Type} {action : Action ρ γ α} {now : Moment} {insideRuntime callback : Bool}
  {custom : List (String × String)} {request : ρ} {start : Underway α}

/-- What is given at once instead of a call is the reason that keeps the request on the ground. -/
theorem setOut_eq_error {error : CallError} :
    action.setOut now insideRuntime callback custom request = .error error ↔
      ∃ reason, action.Grounds insideRuntime request reason ∧ error = action.withId reason := by
  rw [setOut, map_eq_error, takeOff_eq_error]

/-- A request that nothing keeps on the ground sets out. -/
theorem exists_setOut (now : Moment) (callback : Bool) (custom : List (String × String))
    (free : ∀ reason, ¬ action.Grounds insideRuntime request reason) :
    ∃ start, action.setOut now insideRuntime callback custom request = .ok start := by
  cases setsOut : action.setOut now insideRuntime callback custom request with
  | ok start => exact ⟨start, rfl⟩
  | error error =>
    obtain ⟨reason, grounds, _⟩ := setOut_eq_error.mp setsOut
    exact absurd grounds (free reason)

theorem dispatch_eq_error {cache : CredentialCache} {error : CallError} :
    action.dispatch now insideRuntime callback custom request cache = .error error ↔
      ∃ reason, action.Grounds insideRuntime request reason ∧ error = action.withId reason := by
  unfold dispatch
  rw [bind_eq_error, ← takeOff_eq_error]
  refine or_iff_left ?_
  rintro ⟨_, _, launched⟩
  cases launched

/-- Dispatching a request is one order of events of the call that sets out. -/
theorem dispatch_reached
    (setsOut : action.setOut now insideRuntime callback custom request = .ok start)
    (cache : CredentialCache) (reply : Option (Attempt Response)) :
    ∃ next, start.Reaches reply (start.flight.launchInstants now cache) next ∧ next.Quiet ∧
      next.dispatched.Agrees ∧ next.flight = (start.flight.launch now cache).2 ∧
        action.dispatch now insideRuntime callback custom request cache =
          .ok ((start.flight.launch now cache).1, next.dispatched) := by
  obtain ⟨flight, takesOff, rfl⟩ := map_eq_ok.mp setsOut
  let begun : Underway α := { flight, ending := ⟨.pending action.requestId callback true, []⟩ }
  let launched : Underway α := { begun with flight := (flight.launch now cache).2 }
  have quiet : launched.Quiet := fun reported => nomatch reported
  obtain ⟨next, reaches, same, nextQuiet⟩ := Underway.exists_reaches_settle reply quiet
  refine ⟨next, ?_, nextQuiet, ?_, ?_, ?_⟩
  · have both := (begun.reaches_steps reply now flight.stage.remaining cache).trans reaches
    rw [List.append_nil] at both
    exact both
  · rw [same]
    exact Dispatched.agrees_settle (.inl ⟨rfl, rfl⟩)
  · exact (congrArg Dispatched.flight same).trans (Dispatched.flight_settle launched.dispatched)
  · rw [same, dispatch, takesOff]
    rfl

/-- A request that stays on the ground is not waited for. -/
theorem exchange_of_grounds {reason : CallError}
    (grounds : action.Grounds insideRuntime request reason) (reply : Option (Attempt Response))
    (cache : CredentialCache) (reader : Completion α → Outcome α) :
    action.exchange now insideRuntime custom reply request cache reader =
      { cache, sent := [], result := .error (action.withId reason) } := by
  unfold exchange
  rw [dispatch_eq_error.mpr ⟨reason, grounds, rfl⟩]

/-- A request that is sent and waited for is one order of events of the call that sets out, which
comes to rest on its course. -/
theorem exchange_reached {message : RequestMessage} {noted : γ}
    (setsOut : action.setOut now insideRuntime false custom request = .ok start)
    (prepares : action.prepare now custom request = .ok (message, noted))
    (reply : Option (Attempt Response)) (cache : CredentialCache)
    (reader : Completion α → Outcome α) :
    ∃ next, start.Reaches reply (start.flight.launchInstants now cache) next ∧
      next.dispatched.AtRest reply ∧
        next.flight.Follows action noted message reply (start.flight.launchInstants now cache)
            False ∧
          (action.exchange now insideRuntime custom reply request cache reader).sent =
              next.flight.sent ∧
            (action.exchange now insideRuntime custom reply request cache reader).result =
              reader next.completion := by
  obtain ⟨next, reaches, quiet, agrees, flown, dispatches⟩ := dispatch_reached setsOut cache reply
  have settled := start.flight.launch_waits_or_ends now cache
  have follows : next.flight.Follows action noted message reply
      (start.flight.launchInstants now cache) False := by
    obtain ⟨flight, takesOff, rfl⟩ := map_eq_ok.mp setsOut
    rw [flown]
    exact (follows_takeOff takesOff prepares reply False).steps now _ cache
  rw [← flown] at settled
  unfold exchange
  rw [dispatches]
  cases reply with
  | none =>
    refine ⟨next, reaches, ?_, follows, rfl, rfl⟩
    rcases settled with waiting | ⟨outcome, ended⟩
    · obtain ⟨unended, down⟩ := agrees.of_waiting waiting
      exact .waiting waiting rfl unended down
    · obtain ⟨stored, raised⟩ := agrees.of_ended ended
      exact .ended ended stored raised
  | some answer =>
    obtain ⟨last, further, same, _⟩ := Underway.exists_reaches_answer quiet answer
    have both := reaches.trans further
    rw [List.append_nil] at both
    have landed : last.flight = next.flight.land answer :=
      (congrArg Dispatched.flight same).trans (Dispatched.flight_settle _)
    refine ⟨last, both, ?_, ?_, ?_, ?_⟩
    · rw [same]
      exact Dispatched.atRest_answer agrees settled answer
    · rw [landed]
      exact follows.land rfl
    · exact congrArg (fun call : Dispatched α => call.flight.sent) same.symm
    · exact congrArg (fun call : Dispatched α => reader call.completion) same.symm

end Action

end SignedQueue

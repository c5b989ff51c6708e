import Mathlib
import SignedQueue.Call.Dispatch
import SignedQueue.Proofs.Course
import SignedQueue.Proofs.Reporting
/-!
**Calls that are watched over.** A call that has set out goes on in several places at once. Its
flight takes its steps and gets its answer, a supervisor reports what the flight ends with, and any
number of clones of the handle cancel the call. Whichever of these attempts ends the call, the
outcome is what the call comes to on its course, or that it was cancelled.

* `Underway`, `Underway.run`: a call that has set out, and the call after some events;
* `Underway.Supervised`: what holds of a call all along;
* `Underway.supervised_run`: it holds after any events in any order;
* `Underway.Shows`: what readers and the callback are shown of a call.
-/

namespace SignedQueue

variable {α : Type}

/-! ### A call that has set out -/

/-- A call that has set out: its flight, the attempts to end it, and whether the supervisor has
reported the end of the flight. -/
structure Underway (α : Type) where
  flight : Flight α
  ending : Ending α
  reported : Bool := false

namespace Underway

/-- What happens to a call that has set out. -/
inductive Event where
  /-- The flight takes its next step, at an instant at which the clones of its signer share this. -/
  | advance (now : Moment) (cache : CredentialCache)
  /-- The transport replies, if it does. -/
  | land
  /-- The exchange stops, if it has been aborted. -/
  | abort
  /-- The supervisor begins to end the call with what the flight has ended with. -/
  | report
  /-- A clone of the handle begins to cancel the call. -/
  | cancel
  /-- An attempt to end the call takes its next step. -/
  | turn (place : Nat)

/-- The instant at which a flight takes a step. -/
def Event.instant? : Event → Option Instant
  | .advance now cache => some (now, cache)
  | .land | .abort | .report | .cancel | .turn _ => none

/-- The instants at which a flight takes steps. -/
def instants (events : List Event) : List Instant :=
  events.filterMap Event.instant?

variable (reply : Option (Attempt Response))

/-- The call after the supervisor has begun to end it, if the flight has ended. -/
def report (call : Underway α) : Underway α :=
  match call.reported, call.flight.outcome? with
  | false, some outcome =>
    { call with ending := call.ending.add (.completing outcome), reported := true }
  | _, _ => call

/-- The call after an event. -/
def step (call : Underway α) : Event → Underway α
  | .advance now cache => { call with flight := (call.flight.step now cache).2 }
  | .land =>
    match reply with
    | none => call
    | some answer => { call with flight := call.flight.land answer }
  | .abort =>
    if call.ending.completion.aborted then { call with flight := call.flight.abort } else call
  | .report => call.report
  | .cancel => { call with ending := call.ending.add (.cancelling call.ending.completion) }
  | .turn place => { call with ending := call.ending.step place }

/-- The call after some events. -/
def run (call : Underway α) (events : List Event) : Underway α :=
  events.foldl (step reply) call

/-- The events of a call that sends its request unsigned, gets a reply and is completed with it. -/
def repliedTo : List Event :=
  [.advance 0 {}, .land, .report] ++ List.replicate 6 (.turn 0)

/-- What the clones of the handle see of a call. -/
def completion (call : Underway α) : Completion α :=
  call.ending.completion

end Underway

/-- A request's call that has set out and of which nothing has happened yet, or the error that keeps
it on the ground. -/
def Action.setOut {ρ γ : Type} (action : Action ρ γ α) (now : Moment)
    (insideRuntime callback : Bool) (custom : List (String × String)) (request : ρ) :
    Except CallError (Underway α) :=
  (action.takeOff now insideRuntime custom request).map fun flight =>
    { flight, ending := ⟨.pending action.requestId callback true, []⟩ }

/-! ### What holds all along -/

namespace Flight

variable {flight : Flight α} {outcome : Outcome α}

theorem outcome?_eq_some (flight : Flight α) :
    flight.outcome? = some outcome ↔ flight.stage = .ended outcome := by
  unfold outcome?
  cases flight.stage <;> simp

/-- A flight that has ended changes no more. -/
theorem step_of_outcome (ended : flight.outcome? = some outcome) (now : Moment)
    (cache : CredentialCache) : flight.step now cache = (cache, flight) := by
  rw [step, (outcome?_eq_some flight).mp ended]

theorem land_of_outcome (ended : flight.outcome? = some outcome) (answer : Attempt Response) :
    flight.land answer = flight := by
  rw [land, (outcome?_eq_some flight).mp ended]

theorem abort_of_outcome (ended : flight.outcome? = some outcome) : flight.abort = flight := by
  rw [abort, ended]

end Flight

namespace Underway

variable {ρ γ : Type} {action : Action ρ γ α} {request : ρ} {noted : γ}
  {message : RequestMessage}
  {reply : Option (Attempt Response)} {callback : Bool} {before : List Instant}
  {call : Underway α}

/-- A call whose flight is on its course and whose attempts report nothing else. -/
structure Supervised (action : Action ρ γ α) (noted : γ) (message : RequestMessage)
    (reply : Option (Attempt Response)) (callback : Bool) (before : List Instant)
    (call : Underway α) : Prop where
  follows :
    call.flight.Follows action noted message reply before (call.completion.aborted = true)
  reports : call.ending.Reports action.requestId callback call.flight.outcome?

theorem supervised_turn (supervised : call.Supervised action noted message reply callback before)
    (place : Nat) :
    (call.step reply (.turn place)).Supervised action noted message reply callback before := by
  refine ⟨supervised.follows.mono fun aborted => ?_, supervised.reports.step place⟩
  unfold completion at aborted ⊢
  simp only [step]
  cases found : call.ending.finishers[place]? with
  | none => rwa [Ending.step_of_none found]
  | some finisher =>
    rw [Ending.completion_step found]
    exact Finisher.aborted_step.1 aborted

theorem supervised_report
    (supervised : call.Supervised action noted message reply callback before) :
    call.report.Supervised action noted message reply callback before := by
  unfold report
  split
  · rename_i outcome _ ended
    exact ⟨supervised.follows, supervised.reports.add rfl ended⟩
  · exact supervised

/-- Each event keeps a call supervised. -/
theorem supervised_step (supervised : call.Supervised action noted message reply callback before)
    (event : Event) :
    (call.step reply event).Supervised action noted message reply callback
      (before ++ event.instant?.toList) := by
  cases event with
  | advance now cache =>
    -- only a step of the flight adds an instant; a flight that has ended stays as it was reported
    refine ⟨supervised.follows.step now cache, supervised.reports.mono fun result ended => ?_⟩
    simp only [step]
    rw [Flight.step_of_outcome ended, ended]
  | land =>
    rw [Event.instant?, Option.toList_none, List.append_nil]
    cases reply with
    | none => exact supervised
    | some answer =>
      refine ⟨supervised.follows.land rfl, supervised.reports.mono fun result ended => ?_⟩
      simp only [step]
      rw [Flight.land_of_outcome ended, ended]
  | abort =>
    rw [Event.instant?, Option.toList_none, List.append_nil]
    simp only [step]
    split
    · rename_i aborted
      refine ⟨supervised.follows.abort aborted, supervised.reports.mono fun result ended => ?_⟩
      simp only
      rw [Flight.abort_of_outcome ended, ended]
    · exact supervised
  | report =>
    rw [Event.instant?, Option.toList_none, List.append_nil]
    exact supervised_report supervised
  | cancel =>
    rw [Event.instant?, Option.toList_none, List.append_nil]
    refine ⟨supervised.follows, supervised.reports.add rfl ?_⟩
    rw [← supervised.reports.named]
    exact Finisher.reports_cancelling _ _
  | turn place =>
    rw [Event.instant?, Option.toList_none, List.append_nil]
    exact supervised_turn supervised place

/-- Whatever happens, a call stays supervised. -/
theorem supervised_run (supervised : call.Supervised action noted message reply callback before)
    (events : List Event) :
    (call.run reply events).Supervised action noted message reply callback
      (before ++ instants events) := by
  induction events generalizing call before with
  | nil =>
    rw [instants, List.filterMap_nil, List.append_nil]
    exact supervised
  | cons event rest ih =>
    have later := ih (supervised_step supervised event)
    rw [List.append_assoc] at later
    have same : event.instant?.toList ++ instants rest = instants (event :: rest) := by
      unfold instants
      rw [List.filterMap_cons]
      cases event.instant? <;> rfl
    rw [same] at later
    exact later

/-- A call that has ended without being cancelled has ended with what it comes to. -/
theorem Supervised.outcome_eq
    (supervised : call.Supervised action noted message reply callback before)
    {result : Outcome α} (stored : call.completion.outcome = some result) :
    call.ending.IsCancelled ∧
        result = .error (CallError.cancellation.orRequestId action.requestId) ∨
      ∃ signed attempt, action.client.signed message before = some signed ∧
        action.course noted reply signed = some attempt ∧
          result = attempt.mapError action.failure := by
  refine (supervised.reports.outcome_eq stored).imp id ?_
  rintro ⟨notCancelled, ended⟩
  -- an exchange is aborted only by an attempt that has cancelled the call
  exact (supervised.follows.outcome_eq ended).resolve_left fun aborted =>
    notCancelled (supervised.reports.aborted aborted)

/-- What the caller is shown of a call, by a reader or by the callback. -/
inductive Shows (call : Underway α) : Outcome α → Prop
  | get (timeout : Span) : Shows call (call.completion.get timeout)
  | wait (timeout : Span) : Shows call (call.completion.wait timeout)
  | callback {result : Outcome α} (given : result ∈ call.completion.delivered) : Shows call result

/-- Whatever the caller is shown is the outcome, or that the reader's time is up. -/
theorem Supervised.shown
    (supervised : call.Supervised action noted message reply callback before)
    {result : Outcome α} (shows : call.Shows result) :
    (∃ timeout, result = .error ((CallError.lateness timeout).orRequestId action.requestId)) ∨
      call.completion.outcome = some result := by
  obtain ⟨gets, waits, delivers⟩ := supervised.reports.shown
  have late := supervised.reports.timedOut_eq
  cases shows with
  | get timeout => exact (gets timeout).imp (fun timedOut => ⟨timeout, late timeout ▸ timedOut⟩) id
  | wait timeout =>
    exact (waits timeout).imp (fun timedOut => ⟨timeout, late timeout ▸ timedOut⟩) id
  | callback given => exact .inr (delivers result given)

theorem supervised_setOut {now : Moment} {insideRuntime : Bool} {custom : List (String × String)}
    (setsOut : action.setOut now insideRuntime callback custom request = .ok call) :
    ∃ message noted, action.prepare now custom request = .ok (message, noted) ∧
      ∀ reply, call.Supervised action noted message reply callback [] := by
  obtain ⟨flight, takesOff, rfl⟩ := map_eq_ok.mp setsOut
  obtain ⟨message, noted, prepares, _⟩ := Action.takeOff_eq_ok.mp takesOff
  refine ⟨message, noted, prepares,
    fun reply => ⟨action.follows_takeOff takesOff prepares reply _, ?_⟩⟩
  refine ⟨rfl, .inl ⟨⟨rfl, rfl, rfl, rfl⟩, ?_⟩, ?_, ?_, fun aborted => nomatch aborted⟩
  all_goals exact fun _ member => nomatch member

end Underway

end SignedQueue

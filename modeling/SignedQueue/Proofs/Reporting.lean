import Mathlib
import SignedQueue.Proofs.Winner
/-!
**Reporting the end of a flight.** The attempts to end a call report what its flight has ended with,
or cancel it, and further ones may begin at any time. A call that has ended was cancelled, or its
outcome is what was reported; and readers and the callback get nothing but the outcome.

* `Ending.add`: an attempt begins;
* `Ending.IsCancelled`: whether a call has ended by being cancelled;
* `Ending.Reports`: all attempts report the end of one flight, or cancel;
* `Ending.Reports.step`, `Ending.Reports.add`, `Ending.Reports.mono`: they keep to it;
* `Ending.Reports.outcome_eq`, `Ending.Reports.shown`: what a call has ended with, and what of it is
  seen.
-/

namespace SignedQueue

variable {α : Type}

/-- The error of a call that a clone of its handle cancels, without the id of its action. -/
def CallError.cancellation : CallError :=
  { kind := .cancelled, message := "call cancelled before completion" }

/-- The error of a reader whose time is up, without the id of the action. -/
def CallError.lateness (timeout : Span) : CallError :=
  { kind := .timeout, message := "no response within " ++ timeout.text }

/-! ### Attempts to end a call -/

namespace Finisher

variable {completion : Completion α} {finisher : Finisher α}

theorem requestId_step (finisher : Finisher α) (completion : Completion α) :
    (finisher.step completion).1.requestId = completion.requestId := by
  cases stage : finisher.stage with
  | callingBack => rw [step_callingBack stage]
  | storing =>
    rw [step, stage]
    cases completion.outcome <;> rfl
  | _ => rw [step, stage]

theorem hasStored_step (stored : finisher.stage.hasStored = true) :
    (finisher.step completion).2.stage.hasStored = true := by
  cases stage : finisher.stage with
  | takingAbort | storing => simp [stage, Stage.hasStored] at stored
  | callingBack =>
    rw [step_callingBack stage]
    cases finisher.cancels <;> rfl
  | ended won =>
    rw [stage] at stored
    simpa only [step, stage] using stored
  | _ =>
    rw [step, stage]
    rfl

/-- Only an attempt that cancels comes to the point where it aborts the exchange. -/
theorem cancels_step (cancels : finisher.stage = .aborting → finisher.cancels = true)
    (aborting : (finisher.step completion).2.stage = .aborting) :
    (finisher.step completion).2.cancels = true := by
  rw [(finisher.same_step completion).2]
  cases stage : finisher.stage with
  | aborting => exact cancels stage
  | callingBack =>
    rw [step_callingBack stage] at aborting
    cases given : finisher.cancels with
    | true => rfl
    | false =>
      rw [given] at aborting
      cases aborting
  | storing =>
    rw [step, stage] at aborting
    cases outcome : completion.outcome <;> simp [outcome] at aborting
  | ended won => simp [step, stage] at aborting
  | _ =>
    rw [step, stage] at aborting
    cases aborting

/-- The exchange is aborted by an attempt that is about to do so, and stays aborted. -/
theorem aborted_step :
    (completion.aborted = true → (finisher.step completion).1.aborted = true) ∧
      ((finisher.step completion).1.aborted = true →
        completion.aborted = true ∨ finisher.stage = .aborting) := by
  cases stage : finisher.stage with
  | aborting =>
    rw [step, stage]
    refine ⟨fun aborted => ?_, fun _ => .inr rfl⟩
    rw [aborted, Bool.true_or]
  | callingBack =>
    rw [step_callingBack stage]
    exact ⟨id, .inl⟩
  | storing =>
    rw [step, stage]
    cases completion.outcome <;> exact ⟨id, .inl⟩
  | _ =>
    rw [step, stage]
    exact ⟨id, .inl⟩

/-- An attempt that reports the end of a flight, or cancels the call. -/
def Reports (requestId : Option String) (outcome : Option (Outcome α)) (finisher : Finisher α) :
    Prop :=
  if finisher.cancels then finisher.result = .error (CallError.cancellation.orRequestId requestId)
  else outcome = some finisher.result

theorem reports_cancelling (completion : Completion α) (outcome : Option (Outcome α)) :
    (cancelling completion).Reports completion.requestId outcome := by
  have cancels : (cancelling completion).cancels = true := rfl
  rw [Reports, if_pos cancels]
  rfl

/-- What has been reported of a flight stays true when it goes on. -/
theorem Reports.mono {requestId : Option String} {outcome later : Option (Outcome α)}
    (reports : finisher.Reports requestId outcome)
    (kept : ∀ result, outcome = some result → later = some result) :
    finisher.Reports requestId later := by
  unfold Reports at reports ⊢
  by_cases cancels : finisher.cancels = true
  · rw [if_pos cancels] at reports ⊢
    exact reports
  · rw [if_neg cancels] at reports ⊢
    exact kept _ reports

theorem Reports.step {requestId : Option String} {outcome : Option (Outcome α)}
    (reports : finisher.Reports requestId outcome) (completion : Completion α) :
    (finisher.step completion).2.Reports requestId outcome := by
  obtain ⟨result, cancels⟩ := finisher.same_step completion
  rw [Reports, result, cancels]
  exact reports

end Finisher

namespace Ending

variable {callback : Bool} {ending : Ending α} {place : Nat} {finisher : Finisher α}
  {requestId : Option String} {outcome : Option (Outcome α)}

/-- The attempts together with one that has just begun. -/
def add (ending : Ending α) (finisher : Finisher α) : Ending α :=
  { ending with finishers := ending.finishers ++ [finisher] }

/-- Whether a call has ended by being cancelled. -/
def IsCancelled (ending : Ending α) : Prop :=
  ∃ finisher ∈ ending.finishers, finisher.cancels = true ∧ finisher.stage.hasStored = true

theorem forall_step {holds : Finisher α → Prop}
    (before : ∀ finisher ∈ ending.finishers, holds finisher)
    (keeps : ∀ finisher, holds finisher → holds (finisher.step ending.completion).2) (place : Nat) :
    ∀ finisher ∈ (ending.step place).finishers, holds finisher := by
  intro changed member
  cases found : ending.finishers[place]? with
  | none =>
    rw [step_of_none found] at member
    exact before changed member
  | some finisher =>
    obtain ⟨other, held⟩ := List.mem_iff_getElem?.mp member
    by_cases own : place = other
    · rw [← own, getElem?_step_self found] at held
      cases held
      exact keeps finisher (before finisher (List.mem_of_getElem? found))
    · rw [getElem?_step_ne own] at held
      exact before changed (List.mem_of_getElem? held)

theorem IsCancelled.step (cancelled : ending.IsCancelled) (place : Nat) :
    (ending.step place).IsCancelled := by
  obtain ⟨finisher, member, cancels, stored⟩ := cancelled
  obtain ⟨other, held⟩ := List.mem_iff_getElem?.mp member
  by_cases own : place = other
  · subst own
    refine ⟨_, List.mem_of_getElem? (getElem?_step_self held), ?_, Finisher.hasStored_step stored⟩
    rw [(finisher.same_step ending.completion).2, cancels]
  · refine ⟨finisher, List.mem_of_getElem? (i := other) ?_, cancels, stored⟩
    rw [getElem?_step_ne own, held]

theorem Open.add (isOpen : ending.Open callback) (undecided : finisher.stage.isUndecided = true) :
    (ending.add finisher).Open callback := by
  refine ⟨isOpen.shared, ?_⟩
  intro other member
  rcases List.mem_append.mp member with before | last
  · exact isOpen.undecided other before
  · rw [List.mem_singleton.mp last]
    exact undecided

theorem WonBy.add (won : ending.WonBy callback place)
    (undecided : finisher.stage.isUndecided = true) :
    (ending.add finisher).WonBy callback place := by
  obtain ⟨winner, held, ended, losers⟩ := won
  obtain ⟨inside, _⟩ := List.getElem?_eq_some_iff.mp held
  refine ⟨winner, (List.getElem?_append_left inside).trans held, ended, ?_⟩
  intro other differ loser found
  by_cases old : other < ending.finishers.length
  · exact losers other differ loser ((List.getElem?_append_left old).symm.trans found)
  · have last : loser = finisher := by
      have member := List.mem_of_getElem?
        ((List.getElem?_append_right (Nat.le_of_not_lt old)).symm.trans found)
      exact List.mem_singleton.mp member
    rw [last]
    exact Finisher.Stage.hasStored_of_isUndecided undecided

/-- All attempts report the end of a flight, or cancel the call. -/
structure Reports (requestId : Option String) (callback : Bool) (outcome : Option (Outcome α))
    (ending : Ending α) : Prop where
  named : ending.completion.requestId = requestId
  decided : ending.Open callback ∨ ∃ place, ending.WonBy callback place
  results : ∀ finisher ∈ ending.finishers, finisher.Reports requestId outcome
  aborting : ∀ finisher ∈ ending.finishers, finisher.stage = .aborting → finisher.cancels = true
  aborted : ending.completion.aborted = true → ending.IsCancelled

namespace Reports

theorem mono (reports : ending.Reports requestId callback outcome) {later : Option (Outcome α)}
    (kept : ∀ result, outcome = some result → later = some result) :
    ending.Reports requestId callback later := by
  refine ⟨reports.named, reports.decided, ?_, reports.aborting, reports.aborted⟩
  exact fun finisher member => (reports.results finisher member).mono kept

theorem add (reports : ending.Reports requestId callback outcome)
    (undecided : finisher.stage.isUndecided = true)
    (result : finisher.Reports requestId outcome) :
    (ending.add finisher).Reports requestId callback outcome := by
  refine ⟨reports.named, ?_, ?_, ?_, ?_⟩
  · rcases reports.decided with isOpen | ⟨place, won⟩
    · exact .inl (isOpen.add undecided)
    · exact .inr ⟨place, won.add undecided⟩
  · intro other member
    rcases List.mem_append.mp member with before | last
    · exact reports.results other before
    · rw [List.mem_singleton.mp last]
      exact result
  · intro other member stage
    rcases List.mem_append.mp member with before | last
    · exact reports.aborting other before stage
    · rw [List.mem_singleton.mp last] at stage
      rw [stage] at undecided
      cases undecided
  · intro aborted
    obtain ⟨other, member, cancels⟩ := reports.aborted aborted
    exact ⟨other, List.mem_append_left _ member, cancels⟩

theorem step (reports : ending.Reports requestId callback outcome) (place : Nat) :
    (ending.step place).Reports requestId callback outcome := by
  cases found : ending.finishers[place]? with
  | none =>
    rw [step_of_none found]
    exact reports
  | some finisher =>
    have shared := completion_step found
    refine ⟨?_, ?_, ?_, ?_, ?_⟩
    · rw [shared, Finisher.requestId_step, reports.named]
    · rcases reports.decided with isOpen | ⟨winner, won⟩
      · exact (isOpen.step place).imp id fun won => ⟨place, won⟩
      · exact .inr ⟨winner, won.step place⟩
    · exact forall_step reports.results (fun _ before => before.step _) place
    · exact forall_step reports.aborting (fun _ before => Finisher.cancels_step before) place
    · intro aborted
      rw [shared] at aborted
      rcases Finisher.aborted_step.2 aborted with before | stage
      · exact (reports.aborted before).step place
      · refine IsCancelled.step ⟨finisher, List.mem_of_getElem? found, ?_, ?_⟩ place
        · exact reports.aborting finisher (List.mem_of_getElem? found) stage
        · rw [stage]
          rfl

/-- A call that has ended was cancelled, or its outcome is the end of its flight. -/
theorem outcome_eq (reports : ending.Reports requestId callback outcome) {result : Outcome α}
    (stored : ending.completion.outcome = some result) :
    ending.IsCancelled ∧ result = .error (CallError.cancellation.orRequestId requestId) ∨
      ¬ ending.IsCancelled ∧ outcome = some result := by
  rcases reports.decided with isOpen | ⟨place, winner, held, ended, losers⟩
  · rw [isOpen.shared.outcome] at stored
    cases stored
  · have member := List.mem_of_getElem? held
    have reported := reports.results winner member
    obtain rfl : winner.result = result := Option.some.inj (ended.outcome.symm.trans stored)
    unfold Finisher.Reports at reported
    split at reported
    · rename_i cancels
      exact .inl ⟨⟨winner, member, cancels, ended.stored⟩, reported⟩
    · rename_i reportsEnd
      refine .inr ⟨?_, reported⟩
      rintro ⟨other, otherMember, cancels, otherStored⟩
      -- the one that has stored its outcome is the winner, which does not cancel
      obtain ⟨otherPlace, otherHeld⟩ := List.mem_iff_getElem?.mp otherMember
      by_cases own : otherPlace = place
      · rw [own, held] at otherHeld
        cases otherHeld
        exact reportsEnd cancels
      · have loses := losers otherPlace own other otherHeld
        rw [otherStored] at loses
        cases loses

theorem timedOut_eq (reports : ending.Reports requestId callback outcome) (timeout : Span) :
    ending.completion.timedOut timeout = (CallError.lateness timeout).orRequestId requestId := by
  rw [← reports.named]
  rfl

/-- A reader gets the outcome of a call or hears that its time is up, and the callback is given
nothing but the outcome. -/
theorem shown (reports : ending.Reports requestId callback outcome) :
    (∀ timeout, ending.completion.get timeout = .error (ending.completion.timedOut timeout) ∨
      ending.completion.outcome = some (ending.completion.get timeout)) ∧
    (∀ timeout, ending.completion.wait timeout = .error (ending.completion.timedOut timeout) ∨
      ending.completion.outcome = some (ending.completion.wait timeout)) ∧
    ∀ result ∈ ending.completion.delivered, ending.completion.outcome = some result := by
  rcases reports.decided with isOpen | ⟨place, winner, _, ended, _⟩
  · refine ⟨fun timeout => .inl ?_, fun timeout => .inl ?_, ?_⟩
    · rw [Completion.get, isOpen.shared.outcome]
    · rw [Completion.wait, isOpen.shared.flag, if_neg Bool.false_ne_true]
    · rw [isOpen.shared.delivered]
      exact fun _ member => nomatch member
  · refine ⟨fun timeout => .inr ?_, fun timeout => ?_, ?_⟩
    · rw [Completion.get, ended.outcome]
    · unfold Completion.wait
      split
      · rw [ended.outcome]
        exact .inr rfl
      · exact .inl rfl
    · rw [ended.delivered, ended.outcome]
      intro result member
      split at member
      · rw [List.mem_singleton.mp member]
      · cases member

end Reports

end Ending

end SignedQueue

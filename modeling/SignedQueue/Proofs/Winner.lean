import Mathlib
import SignedQueue.Call.Interleaving
/-!
**The attempt that ends a call.** Of several attempts, the first one that finds no outcome ends the
call. From then on, what is shared says how far this attempt has come, and the other attempts touch
nothing of it but the way to abort the exchange.

* `Completion.Unended`, `Completion.EndedBy`: what is shared before an attempt has ended the call,
  and after one has;
* `Ending.Open`, `Ending.WonBy`: the same of all attempts together;
* `Ending.WonBy.run`: the attempt that has ended a call stays the one;
* `Ending.Open.run`: the attempts of some calls are always in one of the two states.
-/

namespace SignedQueue

variable {α : Type}

/-! ### How far an attempt has come -/

namespace Finisher

/-- Whether an attempt has not looked at the outcome. -/
def Stage.isUndecided : Stage → Bool
  | .takingAbort | .storing => true
  | _ => false

/-- Whether an attempt has stored its outcome. -/
def Stage.hasStored : Stage → Bool
  | .takingAbort | .storing | .ended false => false
  | _ => true

/-- Whether an attempt has raised the flag. -/
def Stage.hasRaised : Stage → Bool
  | .dropping | .callingBack | .aborting | .ended true => true
  | _ => false

/-- Whether an attempt is done with the callback. -/
def Stage.hasCalledBack : Stage → Bool
  | .aborting | .ended true => true
  | _ => false

variable {completion : Completion α} {finisher : Finisher α}

theorem Stage.hasStored_of_isUndecided {stage : Stage} (undecided : stage.isUndecided = true) :
    stage.hasStored = false := by
  cases stage <;> first | rfl | cases undecided

theorem step_takingAbort (stage : finisher.stage = .takingAbort) :
    finisher.step completion =
      ({ completion with holdsAbort := false },
        { finisher with tookAbort := completion.holdsAbort, stage := .storing }) := by
  rw [step, stage]

/-- An attempt that finds no outcome stores its own and takes the callback. -/
theorem step_storing (stage : finisher.stage = .storing) (unended : completion.outcome = none) :
    finisher.step completion =
      ({ completion with outcome := some finisher.result, holdsCallback := false },
        { finisher with tookCallback := completion.holdsCallback, stage := .waking }) := by
  simp [step, stage, unended]

/-- Calling back gives the outcome to the callback, if the attempt has taken it. -/
theorem step_callingBack (stage : finisher.stage = .callingBack) :
    finisher.step completion =
      ({ completion with
          delivered :=
            completion.delivered ++ if finisher.tookCallback then [finisher.result] else [] },
        { finisher with
          tookCallback := false
          log := finisher.log ++ if finisher.cancels then [completion.cancelLine] else []
          stage := if finisher.cancels then .aborting else .ended true }) := by
  rw [step, stage]
  cases finisher.tookCallback <;> cases finisher.cancels <;> simp [Completion.cancelLine]

/-- A step changes neither what an attempt ends the call with nor whether it cancels. -/
theorem same_step (finisher : Finisher α) (completion : Completion α) :
    (finisher.step completion).2.result = finisher.result ∧
      (finisher.step completion).2.cancels = finisher.cancels := by
  cases stage : finisher.stage with
  | callingBack => simp [step_callingBack stage]
  | storing =>
    rw [step, stage]
    cases completion.outcome <;> exact ⟨rfl, rfl⟩
  | _ =>
    rw [step, stage]
    exact ⟨rfl, rfl⟩

theorem Stage.remaining_le (stage : Stage) : stage.remaining ≤ 7 := by
  cases stage <;> simp [Stage.remaining]

theorem remaining_step (finisher : Finisher α) :
    (finisher.step completion).2.stage.remaining ≤ finisher.stage.remaining - 1 := by
  cases stage : finisher.stage with
  | callingBack =>
    rw [step_callingBack stage]
    cases cancels : finisher.cancels
    · exact Nat.zero_le _
    · exact le_rfl
  | storing =>
    rw [step, stage]
    cases outcome : completion.outcome
    · exact le_rfl
    · exact Nat.zero_le _
  | ended won =>
    simp [step, stage, Stage.remaining]
  | _ =>
    rw [step, stage]
    exact le_rfl

/-- No step takes the flag down. -/
theorem flag_step (raised : completion.flag = true) :
    (finisher.step completion).1.flag = true := by
  cases stage : finisher.stage with
  | callingBack => rwa [step_callingBack stage]
  | storing =>
    rw [step, stage]
    cases completion.outcome <;> exact raised
  | raising =>
    rw [step, stage]
  | _ =>
    rw [step, stage]
    exact raised

/-- Once there is an outcome, an attempt that has not stored its own touches nothing but the way to
abort, and never stores it. -/
theorem step_of_outcome {result : Outcome α} (ended : completion.outcome = some result)
    (loses : finisher.stage.hasStored = false) :
    (∃ holdsAbort, (finisher.step completion).1 = { completion with holdsAbort }) ∧
      (finisher.step completion).2.stage.hasStored = false := by
  cases stage : finisher.stage with
  | takingAbort =>
    rw [step_takingAbort stage]
    exact ⟨⟨false, rfl⟩, rfl⟩
  | storing =>
    have same :
        finisher.step completion = (completion, { finisher with stage := .ended false }) := by
      simp [step, stage, ended]
    rw [same]
    exact ⟨⟨completion.holdsAbort, rfl⟩, rfl⟩
  | ended won =>
    simp only [step, stage]
    exact ⟨⟨completion.holdsAbort, rfl⟩, stage ▸ loses⟩
  | _ => simp [stage, Stage.hasStored] at loses

end Finisher

/-! ### What is shared -/

namespace Completion

/-- What is shared while no attempt has ended the call. -/
structure Unended (callback : Bool) (completion : Completion α) : Prop where
  outcome : completion.outcome = none
  flag : completion.flag = false
  holdsCallback : completion.holdsCallback = callback
  delivered : completion.delivered = []

/-- What is shared once an attempt has ended the call, and what of it the attempt holds. -/
structure EndedBy (callback : Bool) (winner : Finisher α) (completion : Completion α) : Prop where
  stored : winner.stage.hasStored = true
  outcome : completion.outcome = some winner.result
  flag : completion.flag = winner.stage.hasRaised
  holdsCallback : completion.holdsCallback = false
  tookCallback : winner.tookCallback = (callback && !winner.stage.hasCalledBack)
  delivered :
    completion.delivered = if callback && winner.stage.hasCalledBack then [winner.result] else []

variable {callback : Bool} {completion : Completion α} {finisher : Finisher α}

/-- The next step of an undecided attempt leaves the call as it is, or ends it. -/
theorem Unended.step (unended : completion.Unended callback)
    (undecided : finisher.stage.isUndecided = true) :
    (finisher.step completion).1.Unended callback ∧
        (finisher.step completion).2.stage.isUndecided = true ∨
      (finisher.step completion).1.EndedBy callback (finisher.step completion).2 := by
  obtain ⟨outcome, flag, holdsCallback, delivered⟩ := unended
  cases stage : finisher.stage with
  | takingAbort =>
    rw [Finisher.step_takingAbort stage]
    exact .inl ⟨⟨outcome, flag, holdsCallback, delivered⟩, rfl⟩
  | storing =>
    rw [Finisher.step_storing stage outcome]
    refine .inr ⟨rfl, rfl, flag, rfl, ?_, ?_⟩
    · simp [holdsCallback, Finisher.Stage.hasCalledBack]
    · simp [delivered, Finisher.Stage.hasCalledBack]
  | _ => simp [stage, Finisher.Stage.isUndecided] at undecided

/-- Each step of the attempt that has ended a call keeps what is shared in line with it. -/
theorem EndedBy.step (ended : completion.EndedBy callback finisher) :
    (finisher.step completion).1.EndedBy callback (finisher.step completion).2 := by
  obtain ⟨stored, outcome, flag, holdsCallback, tookCallback, delivered⟩ := ended
  cases stage : finisher.stage with
  | takingAbort => simp [stage, Finisher.Stage.hasStored] at stored
  | storing => simp [stage, Finisher.Stage.hasStored] at stored
  | ended won =>
    simp only [Finisher.step, stage]
    exact ⟨stored, outcome, flag, holdsCallback, tookCallback, delivered⟩
  | callingBack =>
    rw [stage] at flag tookCallback delivered
    rw [Finisher.step_callingBack stage]
    cases cancels : finisher.cancels <;>
      exact ⟨rfl, outcome, flag, holdsCallback, by simp [Finisher.Stage.hasCalledBack],
        by simp [delivered, tookCallback, Finisher.Stage.hasCalledBack]⟩
  | raising =>
    rw [stage] at tookCallback delivered
    rw [Finisher.step, stage]
    exact ⟨rfl, outcome, rfl, holdsCallback, tookCallback, delivered⟩
  | waking | dropping | aborting =>
    rw [stage] at flag tookCallback delivered
    rw [Finisher.step, stage]
    exact ⟨rfl, outcome, flag, holdsCallback, tookCallback, delivered⟩

/-- The attempts that have not ended a call leave what is shared in line with the one that has. -/
theorem EndedBy.step_other (ended : completion.EndedBy callback finisher) {other : Finisher α}
    (loses : other.stage.hasStored = false) :
    (other.step completion).1.EndedBy callback finisher := by
  obtain ⟨⟨holdsAbort, same⟩, _⟩ := Finisher.step_of_outcome ended.outcome loses
  rw [same]
  exact ⟨ended.stored, ended.outcome, ended.flag, ended.holdsCallback, ended.tookCallback,
    ended.delivered⟩

end Completion

/-! ### All attempts together -/

namespace Ending

/-- No attempt has ended the call, nor given up. -/
structure Open (callback : Bool) (ending : Ending α) : Prop where
  shared : ending.completion.Unended callback
  undecided : ∀ finisher ∈ ending.finishers, finisher.stage.isUndecided = true

/-- The attempt at a place has ended the call, and no other has. -/
def WonBy (callback : Bool) (place : Nat) (ending : Ending α) : Prop :=
  ∃ winner, ending.finishers[place]? = some winner ∧ ending.completion.EndedBy callback winner ∧
    ∀ other ≠ place, ∀ finisher ∈ ending.finishers[other]?, finisher.stage.hasStored = false

variable {callback : Bool} {ending : Ending α} {place other : Nat}

/-! #### One step -/

theorem step_of_none (absent : ending.finishers[place]? = none) : ending.step place = ending := by
  rw [step, absent]

theorem completion_step {finisher : Finisher α}
    (found : ending.finishers[place]? = some finisher) :
    (ending.step place).completion = (finisher.step ending.completion).1 := by
  rw [step, found]

theorem getElem?_step_self {finisher : Finisher α}
    (found : ending.finishers[place]? = some finisher) :
    (ending.step place).finishers[place]? = some (finisher.step ending.completion).2 := by
  obtain ⟨inside, -⟩ := List.getElem?_eq_some_iff.mp found
  rw [step, found]
  exact List.getElem?_set_self inside

/-- A step leaves all attempts alone but the one that takes it. -/
theorem getElem?_step_ne (differ : place ≠ other) :
    (ending.step place).finishers[other]? = ending.finishers[other]? := by
  unfold step
  split
  · rfl
  · exact List.getElem?_set_ne differ

/-- A step leaves the call open, or ends it by the attempt that takes it. -/
theorem Open.step (isOpen : ending.Open callback) (place : Nat) :
    (ending.step place).Open callback ∨ (ending.step place).WonBy callback place := by
  cases found : ending.finishers[place]? with
  | none =>
    rw [step_of_none found]
    exact .inl isOpen
  | some finisher =>
    have own := getElem?_step_self found
    have shared := completion_step found
    rcases isOpen.shared.step (isOpen.undecided finisher (List.mem_of_getElem? found)) with
      ⟨unended, undecided⟩ | ended
    · refine .inl ⟨shared ▸ unended, ?_⟩
      intro changed member
      obtain ⟨other, held⟩ := List.mem_iff_getElem?.mp member
      by_cases same : place = other
      · rw [← same, own] at held
        cases held
        exact undecided
      · rw [getElem?_step_ne same] at held
        exact isOpen.undecided changed (List.mem_of_getElem? held)
    · refine .inr ⟨_, own, shared ▸ ended, ?_⟩
      intro other differ loser held
      rw [getElem?_step_ne differ.symm] at held
      exact Finisher.Stage.hasStored_of_isUndecided
        (isOpen.undecided loser (List.mem_of_getElem? held))

/-- The attempt that has ended the call stays the one after a step of any attempt. -/
theorem WonBy.step (won : ending.WonBy callback place) (other : Nat) :
    (ending.step other).WonBy callback place := by
  obtain ⟨winner, held, ended, losers⟩ := won
  cases found : ending.finishers[other]? with
  | none =>
    rw [step_of_none found]
    exact ⟨winner, held, ended, losers⟩
  | some finisher =>
    have shared := completion_step found
    by_cases own : other = place
    · subst own
      obtain rfl : winner = finisher := Option.some.inj (held.symm.trans found)
      refine ⟨_, getElem?_step_self found, shared ▸ ended.step, ?_⟩
      intro third differ loser member
      rw [getElem?_step_ne differ.symm] at member
      exact losers third differ loser member
    · have loses := losers other own finisher found
      refine ⟨winner, ?_, shared ▸ ended.step_other loses, ?_⟩
      · rw [getElem?_step_ne own, held]
      · intro third differ loser member
        by_cases same : other = third
        · rw [← same, getElem?_step_self found] at member
          cases member
          exact (Finisher.step_of_outcome ended.outcome loses).2
        · rw [getElem?_step_ne same] at member
          exact losers third differ loser member

/-- A step changes neither what an attempt ends the call with nor whether it cancels. -/
theorem same_step (ending : Ending α) (place other : Nat) :
    (ending.step place).finishers[other]?.map
        (fun finisher => (finisher.result, finisher.cancels)) =
      ending.finishers[other]?.map fun finisher => (finisher.result, finisher.cancels) := by
  by_cases same : place = other
  · subst same
    cases found : ending.finishers[place]? with
    | none => rw [step_of_none found, found]
    | some finisher =>
      obtain ⟨result, cancels⟩ := finisher.same_step ending.completion
      rw [getElem?_step_self found, Option.map_some, Option.map_some, result, cancels]
  · rw [getElem?_step_ne same]

/-! #### A whole schedule -/

theorem WonBy.run (won : ending.WonBy callback place) (schedule : List Nat) :
    (ending.run schedule).WonBy callback place := by
  induction schedule generalizing ending with
  | nil => exact won
  | cons turn rest ih => exact ih (won.step turn)

theorem Open.run (isOpen : ending.Open callback) (schedule : List Nat) :
    (ending.run schedule).Open callback ∨
      ∃ place, (ending.run schedule).WonBy callback place := by
  induction schedule generalizing ending with
  | nil => exact .inl isOpen
  | cons turn rest ih =>
    rcases isOpen.step turn with stillOpen | won
    · exact ih stillOpen
    · exact .inr ⟨turn, won.run rest⟩

theorem same_run (ending : Ending α) (schedule : List Nat) (place : Nat) :
    (ending.run schedule).finishers[place]?.map
        (fun finisher => (finisher.result, finisher.cancels)) =
      ending.finishers[place]?.map fun finisher => (finisher.result, finisher.cancels) := by
  induction schedule generalizing ending with
  | nil => rfl
  | cons turn rest ih => exact (ih (ending.step turn)).trans (ending.same_step turn place)

end Ending

end SignedQueue

import Mathlib
import SignedQueue.Proofs.ExactlyOnce
/-!
**Who aborts the exchange of a cancelled call.** An attempt to cancel takes the way to abort before
it looks at the outcome. So the first one that gets a turn has it for good, even when another ends
the call, and the exchange is aborted only if both are the same.

* `Ending.firstCancel`: the attempt to cancel that gets the first turn;
* `Ending.HandsOver`, `Ending.Aborts`: who holds the way to abort before and after a call has ended;
* `Ending.aborted_iff_firstCancel`: a call that has been cancelled aborts the exchange exactly if
  the attempt that cancelled it was the first;
* `Ending.cancelled_not_aborted`: two attempts of which the second cancels the call and nobody
  aborts.
-/

namespace SignedQueue

variable {α : Type}

namespace Finisher

variable {finisher : Finisher α}

/-- An attempt that has ended the call by cancelling keeps the way to abort until it aborts. -/
theorem abort_step (completion : Completion α) (stored : finisher.stage.hasStored = true)
    (cancels : finisher.cancels = true)
    (given : finisher.stage = .ended true → finisher.tookAbort = false) :
    ((finisher.step completion).1.aborted || (finisher.step completion).2.tookAbort) =
        (completion.aborted || finisher.tookAbort) ∧
      ((finisher.step completion).2.stage = .ended true →
        (finisher.step completion).2.tookAbort = false) := by
  cases stage : finisher.stage with
  | takingAbort | storing => simp [stage, Stage.hasStored] at stored
  | callingBack => simp [step_callingBack stage, cancels]
  | aborting =>
    rw [step, stage]
    exact ⟨Bool.or_false _, fun _ => rfl⟩
  | ended won =>
    simp only [step, stage]
    rw [stage] at given
    exact ⟨trivial, given⟩
  | _ =>
    rw [step, stage]
    refine ⟨rfl, ?_⟩
    intro ended
    cases ended

end Finisher

namespace Ending

/-- Whether a call cancels. -/
def Call.isCancel : Call α → Bool
  | .complete _ => false
  | .cancel => true

/-- The place of the call that cancels and gets a turn before all others that do. -/
def firstCancel (calls : List (Call α)) (schedule : List Nat) : Option Nat :=
  schedule.find? fun place => calls[place]?.any Call.isCancel

/-- Whether the attempt at a place cancels. -/
def cancelsAt (ending : Ending α) (place : Nat) : Bool :=
  ending.finishers[place]?.any Finisher.cancels

/-- The first of the attempts that cancel, after one more turn. -/
def firstAfter (ending : Ending α) (first : Option Nat) (turn : Nat) : Option Nat :=
  first.or (if ending.cancelsAt turn then some turn else none)

/-- Who holds the way to abort while no attempt has ended the call: the first of those that
cancel. -/
structure HandsOver (first : Option Nat) (ending : Ending α) : Prop where
  holdsAbort : ending.completion.holdsAbort = first.isNone
  aborted : ending.completion.aborted = false
  waiting :
    ∀ place, ∀ finisher ∈ ending.finishers[place]?, finisher.stage = .takingAbort →
      finisher.cancels = true ∧ first ≠ some place
  took :
    ∀ place, ∀ finisher ∈ ending.finishers[place]?, finisher.stage = .storing →
      finisher.cancels = true → first.isSome ∧ finisher.tookAbort = decide (first = some place)

/-- What the attempt that has ended the call by cancelling makes of the way to abort. -/
def Aborts (first : Option Nat) (place : Nat) (ending : Ending α) : Prop :=
  ∀ winner ∈ ending.finishers[place]?, winner.cancels = true →
    first.isSome ∧
      (ending.completion.aborted || winner.tookAbort) = decide (first = some place) ∧
        (winner.stage = .ended true → winner.tookAbort = false)

variable {callback : Bool} {ending : Ending α} {first : Option Nat} {place turn : Nat}

/-! ### One step -/

theorem cancelsAt_step (ending : Ending α) (turn : Nat) :
    (ending.step turn).cancelsAt = ending.cancelsAt := by
  funext place
  have same := congrArg (Option.any Prod.snd) (ending.same_step turn place)
  rwa [Option.any_map, Option.any_map] at same

theorem firstAfter_of_isSome (found : first.isSome) : ending.firstAfter first turn = first := by
  obtain ⟨place, rfl⟩ := Option.isSome_iff_exists.mp found
  rfl

/-- The first attempt that takes the way to abort gets it, and later ones get nothing. -/
theorem HandsOver.step_takingAbort (hands : ending.HandsOver first) {finisher : Finisher α}
    (found : ending.finishers[turn]? = some finisher) (stage : finisher.stage = .takingAbort) :
    (ending.step turn).HandsOver (ending.firstAfter first turn) := by
  obtain ⟨cancels, notFirst⟩ := hands.waiting turn finisher found stage
  have shared := completion_step found
  have moved := getElem?_step_self found
  rw [Finisher.step_takingAbort stage] at shared moved
  have after : ending.firstAfter first turn = first.or (some turn) := by
    simp [firstAfter, cancelsAt, found, cancels]
  rw [after]
  refine ⟨?_, ?_, ?_, ?_⟩
  · rw [shared]
    cases first <;> rfl
  · rw [shared]
    exact hands.aborted
  · intro place waiter held waits
    by_cases own : turn = place
    · rw [← own, moved] at held
      cases held
      cases waits
    · rw [getElem?_step_ne own] at held
      obtain ⟨waiterCancels, differ⟩ := hands.waiting place waiter held waits
      refine ⟨waiterCancels, ?_⟩
      -- a first one that is there stays the first, and otherwise it is now the one at `turn`
      cases first with
      | none => simpa using own
      | some earlier => exact differ
  · intro place waiter held waits waiterCancels
    by_cases own : turn = place
    · rw [← own, moved] at held
      cases held
      refine ⟨by simp, ?_⟩
      rw [hands.holdsAbort, ← own]
      cases first with
      | none => simp
      | some earlier => simpa [eq_comm] using notFirst
    · rw [getElem?_step_ne own] at held
      obtain ⟨taken, tookAbort⟩ := hands.took place waiter held waits waiterCancels
      rw [Option.or_of_isSome taken]
      exact ⟨taken, tookAbort⟩

/-- The attempt that ends the call holds the way to abort if it was the first. -/
theorem HandsOver.step_storing (hands : ending.HandsOver first)
    (unended : ending.completion.outcome = none) {finisher : Finisher α}
    (found : ending.finishers[turn]? = some finisher) (stage : finisher.stage = .storing) :
    (ending.step turn).Aborts (ending.firstAfter first turn) turn := by
  have shared := completion_step found
  have moved := getElem?_step_self found
  rw [Finisher.step_storing stage unended] at shared moved
  intro winner held cancels
  rw [moved] at held
  cases held
  obtain ⟨taken, tookAbort⟩ := hands.took turn finisher found stage cancels
  rw [firstAfter_of_isSome taken]
  refine ⟨taken, ?_, ?_⟩
  · rw [shared, hands.aborted, Bool.false_or, tookAbort]
  · intro ended
    cases ended

/-- A turn while no attempt has ended the call. -/
theorem HandsOver.step (hands : ending.HandsOver first) (isOpen : ending.Open callback)
    (turn : Nat) :
    (ending.step turn).Open callback ∧
        (ending.step turn).HandsOver (ending.firstAfter first turn) ∨
      (ending.step turn).WonBy callback turn ∧
        (ending.step turn).Aborts (ending.firstAfter first turn) turn := by
  cases found : ending.finishers[turn]? with
  | none =>
    have same : ending.firstAfter first turn = first := by
      simp [firstAfter, cancelsAt, found]
    rw [step_of_none found, same]
    exact .inl ⟨isOpen, hands⟩
  | some finisher =>
    have undecided := isOpen.undecided finisher (List.mem_of_getElem? found)
    have unended := isOpen.shared.outcome
    cases stage : finisher.stage with
    | takingAbort =>
      refine .inl ⟨(isOpen.step turn).resolve_right ?_, hands.step_takingAbort found stage⟩
      rintro ⟨winner, _, ended, _⟩
      have stored := ended.outcome
      rw [completion_step found, Finisher.step_takingAbort stage, unended] at stored
      cases stored
    | storing =>
      refine .inr ⟨(isOpen.step turn).resolve_left ?_, hands.step_storing unended found stage⟩
      intro stillOpen
      have missing := stillOpen.shared.outcome
      rw [completion_step found, Finisher.step_storing stage unended] at missing
      cases missing
    | _ => simp [stage, Finisher.Stage.isUndecided] at undecided

/-- A turn after an attempt has ended the call. -/
theorem Aborts.step (aborts : ending.Aborts first place) (won : ending.WonBy callback place)
    (turn : Nat) : (ending.step turn).Aborts (ending.firstAfter first turn) place := by
  obtain ⟨winner, held, ended, losers⟩ := won
  intro after heldAfter cancels
  have same := ending.same_step turn place
  rw [heldAfter, held, Option.map_some, Option.map_some, Option.some.injEq, Prod.mk.injEq] at same
  obtain ⟨taken, either, given⟩ := aborts winner held (same.2 ▸ cancels)
  rw [firstAfter_of_isSome taken]
  refine ⟨taken, ?_⟩
  cases found : ending.finishers[turn]? with
  | none =>
    rw [step_of_none found] at heldAfter ⊢
    obtain rfl : winner = after := Option.some.inj (held.symm.trans heldAfter)
    exact ⟨either, given⟩
  | some finisher =>
    have shared := completion_step found
    -- only the turn of the winner moves what it holds; another turn leaves `aborted` alone
    by_cases own : turn = place
    · rw [← own, getElem?_step_self found] at heldAfter
      rw [← own] at held
      obtain rfl : winner = finisher := Option.some.inj (held.symm.trans found)
      cases heldAfter
      obtain ⟨kept, gone⟩ := Finisher.abort_step ending.completion ended.stored (same.2 ▸ cancels)
        given
      rw [shared]
      exact ⟨kept.trans either, gone⟩
    · rw [getElem?_step_ne own] at heldAfter
      obtain rfl : winner = after := Option.some.inj (held.symm.trans heldAfter)
      obtain ⟨⟨holdsAbort, frame⟩, _⟩ :=
        Finisher.step_of_outcome ended.outcome (losers turn own finisher found)
      rw [shared, frame]
      exact ⟨either, given⟩

/-! ### A whole schedule -/

theorem firstAfter_or_find? (ending : Ending α) (first : Option Nat) (turn : Nat)
    (rest : List Nat) :
    (ending.firstAfter first turn).or (rest.find? ending.cancelsAt) =
      first.or ((turn :: rest).find? ending.cancelsAt) := by
  rw [firstAfter, Option.or_assoc, List.find?_cons]
  cases ending.cancelsAt turn <;> rfl

theorem Aborts.run (aborts : ending.Aborts first place) (won : ending.WonBy callback place)
    (schedule : List Nat) :
    (ending.run schedule).Aborts (first.or (schedule.find? ending.cancelsAt)) place := by
  induction schedule generalizing ending first with
  | nil =>
    rw [List.find?_nil, Option.or_none]
    exact aborts
  | cons turn rest ih =>
    have later := ih (aborts.step won turn) (won.step turn)
    rw [cancelsAt_step, firstAfter_or_find?] at later
    exact later

theorem HandsOver.run (hands : ending.HandsOver first) (isOpen : ending.Open callback)
    (schedule : List Nat) :
    (ending.run schedule).Open callback ∨
      ∃ place, (ending.run schedule).WonBy callback place ∧
        (ending.run schedule).Aborts (first.or (schedule.find? ending.cancelsAt)) place := by
  induction schedule generalizing ending first with
  | nil => exact .inl isOpen
  | cons turn rest ih =>
    rcases hands.step isOpen turn with ⟨stillOpen, stillHands⟩ | ⟨won, aborts⟩
    · have later := ih stillHands stillOpen
      rw [cancelsAt_step, firstAfter_or_find?] at later
      exact later
    · have later := aborts.run won rest
      rw [cancelsAt_step, firstAfter_or_find?] at later
      exact .inr ⟨turn, won.run rest, later⟩

variable {calls : List (Call α)} {requestId : Option String} {schedule : List Nat}

theorem cancelsAt_ofCalls (begun : Completion α) (calls : List (Call α)) :
    (ofCalls begun calls).cancelsAt = fun place => calls[place]?.any Call.isCancel := by
  funext place
  rw [cancelsAt, ofCalls, List.getElem?_map, Option.any_map]
  congr 1
  funext call
  cases call <;> rfl

theorem cancelsAt_run (ending : Ending α) (schedule : List Nat) :
    (ending.run schedule).cancelsAt = ending.cancelsAt := by
  induction schedule generalizing ending with
  | nil => rfl
  | cons turn rest ih => exact (ih (ending.step turn)).trans (ending.cancelsAt_step turn)

theorem handsOver_ofCalls (requestId : Option String) (callback : Bool) (calls : List (Call α)) :
    (ofCalls (.pending requestId callback true) calls).HandsOver none := by
  refine ⟨rfl, rfl, ?_, ?_⟩
  all_goals
    intro place finisher found stage
    rw [ofCalls, List.getElem?_map, Option.mem_def, Option.map_eq_some_iff] at found
    obtain ⟨call, _, rfl⟩ := found
  · cases call with
    | complete result => cases stage
    | cancel => exact ⟨rfl, (Option.some_ne_none place).symm⟩
  · intro cancels
    cases call with
    | complete result => cases cancels
    | cancel => cases stage

/-- A call that has been cancelled aborts the exchange exactly if no other attempt to cancel had its
first turn before the one that cancelled it. -/
theorem aborted_iff_firstCancel (cancels : calls[place]? = some .cancel)
    (returned :
      ((ofCalls (.pending requestId callback true) calls).run schedule).returned place =
        some true) :
    ((ofCalls (.pending requestId callback true) calls).run schedule).completion.aborted = true ↔
      firstCancel calls schedule = some place := by
  rcases (handsOver_ofCalls requestId callback calls).run
    (open_ofCalls requestId callback true calls) schedule with isOpen | ⟨other, won, aborts⟩
  · exact absurd returned isOpen.returned_ne
  · obtain rfl := won.eq_of_returned returned
    obtain ⟨winner, found, stage⟩ := returned_eq_some.mp returned
    have winnerCancels : winner.cancels = true := by
      have same :
          ((ofCalls (.pending requestId callback true) calls).run schedule).cancelsAt place =
            calls[place]?.any Call.isCancel := by rw [cancelsAt_run, cancelsAt_ofCalls]
      rw [cancels, cancelsAt, found] at same
      exact same
    obtain ⟨_, either, given⟩ := aborts winner found winnerCancels
    rw [given stage, Bool.or_false, Option.none_or, cancelsAt_ofCalls] at either
    rw [either, decide_eq_true_eq, firstCancel]

theorem aborted_iff_firstCancel_alone :
    ((ofCalls (.pending none false true) [.cancel, .complete (.ok ())]).run
          (List.replicate 7 0)).returned 0 = some true ∧
      ((ofCalls (.pending none false true) [.cancel, .complete (.ok ())]).run
          (List.replicate 7 0)).completion.aborted = true :=
  ⟨rfl, (aborted_iff_firstCancel rfl rfl).mpr rfl⟩

/-- The first attempt to cancel takes the way to abort, the second one cancels the call, and the
exchange is never aborted. -/
theorem cancelled_not_aborted :
    let calls : List (Call Unit) := [.cancel, .cancel]
    let ending := (ofCalls (.pending none false true) calls).run [0, 1, 1, 1, 1, 1, 1, 1, 0]
    ending.isOver = true ∧ ending.returned 1 = some true ∧ ending.completion.aborted = false :=
  ⟨rfl, rfl, rfl⟩

end Ending

end SignedQueue

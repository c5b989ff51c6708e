import Mathlib
import SignedQueue.Proofs.Winner
/-!
**A call ends exactly once.** However the steps of calls on its clones come between each other, a
handle gets one outcome, one call returns that it was the one, and the callback is given this
outcome by this call.

* `Ending.EndsOnce`: what this says about one instant and everything later;
* `Ending.isOver_run`: calls that get turns enough return;
* `Ending.endsOnce_run`: it holds at each instant of each schedule.
-/

namespace SignedQueue

variable {α : Type}

namespace Ending

/-- What holds at an instant at which calls end what is under way, and after it. -/
structure EndsOnce (callback : Bool) (begun : Completion α) (calls : List (Call α))
    (ending : Ending α) : Prop where
  /-- An outcome that is stored stays, and every later reader gets it. -/
  stays :
    ∀ result, ending.completion.outcome = some result → ∀ later timeout,
      (ending.run later).completion.outcome = some result ∧
        (ending.run later).completion.get timeout = result
  /-- At most one call returns that it was the one. -/
  atMostOne :
    ∀ place other, ending.returned place = some true → ending.returned other = some true →
      place = other
  /-- Once all calls have returned, one was. -/
  atLeastOne : calls ≠ [] → ending.isOver = true → ∃ place, ending.returned place = some true
  /-- The result of the call that was the one is stored, and has been given to the callback. -/
  settled :
    ∀ place, ending.returned place = some true → ∃ call ∈ calls[place]?,
      ending.completion.outcome = some (call.result begun) ∧
        ending.completion.delivered = if callback then [call.result begun] else []
  /-- The callback is given nothing but the outcome, and this at most once. -/
  delivered :
    ending.completion.delivered = [] ∨
      ∃ result, ending.completion.outcome = some result ∧ ending.completion.delivered = [result]
  /-- The callback is never taken twice. -/
  taken :
    ending.completion.holdsCallback = false → ∀ later,
      (ending.run later).completion.holdsCallback = false
  /-- No call but the one that ends what is under way takes the callback or calls back. -/
  ownsCallback :
    ∀ place,
      (ending.step place).completion.holdsCallback ≠ ending.completion.holdsCallback ∨
          (ending.step place).completion.delivered ≠ ending.completion.delivered →
        ∀ later winner, ((ending.step place).run later).returned winner = some true →
          winner = place
  /-- The flag is up only when there is an outcome, and whoever waits for it gets this one. -/
  flagged :
    ending.completion.flag = true → ∃ result, ∀ later timeout,
      (ending.run later).completion.outcome = some result ∧
        (ending.run later).completion.wait timeout = result

variable {callback : Bool} {ending : Ending α} {place other : Nat}

/-! ### Returning -/

theorem returned_eq_some {won : Bool} :
    ending.returned place = some won ↔
      ∃ finisher, ending.finishers[place]? = some finisher ∧ finisher.stage = .ended won := by
  rw [returned, Option.bind_eq_some_iff]
  refine exists_congr fun finisher => and_congr_right fun _ => ?_
  cases stage : finisher.stage <;> simp [Finisher.won?, stage]

/-- As long as the call is open, no attempt has returned. -/
theorem Open.not_isOver (isOpen : ending.Open callback) (some : ending.finishers ≠ []) :
    ending.isOver = false := by
  obtain ⟨finisher, member⟩ := List.exists_mem_of_ne_nil _ some
  have undecided := isOpen.undecided finisher member
  rw [isOver, List.all_eq_false]
  refine ⟨finisher, member, ?_⟩
  cases stage : finisher.stage <;> simp_all [Finisher.won?, Finisher.Stage.isUndecided]

theorem Open.returned_ne (isOpen : ending.Open callback) : ending.returned place ≠ some true := by
  intro returned
  obtain ⟨finisher, found, stage⟩ := returned_eq_some.mp returned
  have undecided := isOpen.undecided finisher (List.mem_of_getElem? found)
  rw [stage] at undecided
  cases undecided

/-- The call that returns that it was the one has ended the call. -/
theorem WonBy.eq_of_returned (won : ending.WonBy callback place)
    (returned : ending.returned other = some true) : other = place := by
  obtain ⟨_, _, _, losers⟩ := won
  obtain ⟨finisher, found, stage⟩ := returned_eq_some.mp returned
  by_contra differ
  have loses := losers other differ finisher found
  rw [stage] at loses
  cases loses

/-- Once all attempts have ended, the one that has ended the call returns so. -/
theorem WonBy.returned_of_isOver (won : ending.WonBy callback place)
    (allReturned : ending.isOver = true) : ending.returned place = some true := by
  obtain ⟨winner, held, ended, _⟩ := won
  have returns := List.all_eq_true.mp allReturned winner (List.mem_of_getElem? held)
  have stored := ended.stored
  refine returned_eq_some.mpr ⟨winner, held, ?_⟩
  cases stage : winner.stage with
  | ended won =>
    rw [stage] at stored
    cases won
    · cases stored
    · rfl
  | _ => simp [Finisher.won?, stage] at returns

/-- The most steps that the attempt at a place still takes. -/
def remaining (ending : Ending α) (place : Nat) : Nat :=
  (ending.finishers[place]?.map fun finisher => finisher.stage.remaining).getD 0

/-- The turn of an attempt brings it one step nearer to its end, and no other turn takes it back. -/
theorem remaining_step (ending : Ending α) (turn place : Nat) :
    (ending.step turn).remaining place ≤
      ending.remaining place - if turn = place then 1 else 0 := by
  rw [remaining, remaining]
  split_ifs with own
  · subst own
    cases found : ending.finishers[turn]? with
    | none =>
      rw [step_of_none found, found]
      exact le_rfl
    | some finisher =>
      rw [getElem?_step_self found]
      exact finisher.remaining_step
  · rw [getElem?_step_ne own]
    exact le_rfl

theorem remaining_run (ending : Ending α) (schedule : List Nat) (place : Nat) :
    (ending.run schedule).remaining place ≤ ending.remaining place - schedule.count place := by
  induction schedule generalizing ending with
  | nil => exact le_rfl
  | cons turn rest ih =>
    have later := ih (ending.step turn)
    have now := ending.remaining_step turn place
    rw [List.count_cons]
    simp only [beq_iff_eq]
    calc (ending.run (turn :: rest)).remaining place
        ≤ (ending.step turn).remaining place - rest.count place := later
      _ ≤ ending.remaining place - (rest.count place + if turn = place then 1 else 0) := by omega

/-- All attempts have ended once each has had seven turns. -/
theorem isOver_run (ending : Ending α) {schedule : List Nat}
    (turns : ∀ place < ending.finishers.length, 7 ≤ schedule.count place) :
    (ending.run schedule).isOver = true := by
  refine List.all_eq_true.mpr ?_
  intro finisher member
  obtain ⟨place, found⟩ := List.mem_iff_getElem?.mp member
  obtain ⟨before, held⟩ : ∃ before, ending.finishers[place]? = some before := by
    have same := ending.same_run schedule place
    rw [found, Option.map_some, eq_comm, Option.map_eq_some_iff] at same
    obtain ⟨before, held, _⟩ := same
    exact ⟨before, held⟩
  obtain ⟨inside, -⟩ := List.getElem?_eq_some_iff.mp held
  have left := ending.remaining_run schedule place
  have enough := turns place inside
  rw [remaining, remaining, found, held, Option.map_some, Option.map_some, Option.getD_some,
    Option.getD_some] at left
  have atMost := before.stage.remaining_le
  have none : finisher.stage.remaining = 0 := by omega
  cases stage : finisher.stage <;> simp_all [Finisher.Stage.remaining, Finisher.won?]

/-! ### What later readers find -/

theorem WonBy.outcome_run (won : ending.WonBy callback place) {result : Outcome α}
    (stored : ending.completion.outcome = some result) (later : List Nat) :
    (ending.run later).completion.outcome = some result := by
  obtain ⟨winner, held, ended, _⟩ := won
  obtain ⟨after, heldAfter, endedAfter, _⟩ := WonBy.run ⟨winner, held, ended, ‹_›⟩ later
  have same := ending.same_run later place
  rw [held, heldAfter, Option.map_some, Option.map_some, Option.some.injEq, Prod.mk.injEq] at same
  rw [endedAfter.outcome, same.1, ← ended.outcome, stored]

theorem flag_step (raised : ending.completion.flag = true) (place : Nat) :
    (ending.step place).completion.flag = true := by
  cases found : ending.finishers[place]? with
  | none => rwa [step_of_none found]
  | some finisher =>
    rw [completion_step found]
    exact Finisher.flag_step raised

theorem flag_run (raised : ending.completion.flag = true) (later : List Nat) :
    (ending.run later).completion.flag = true := by
  induction later generalizing ending with
  | nil => exact raised
  | cons turn rest ih => exact ih (flag_step raised turn)

/-! ### The callback -/

/-- Whoever takes the callback or calls back is the attempt that ends the call. -/
theorem WonBy.eq_of_callback (won : ending.WonBy callback place)
    (changes :
      (ending.step other).completion.holdsCallback ≠ ending.completion.holdsCallback ∨
        (ending.step other).completion.delivered ≠ ending.completion.delivered) :
    other = place := by
  obtain ⟨winner, _, ended, losers⟩ := won
  by_contra differ
  cases found : ending.finishers[other]? with
  | none => simp [step_of_none found] at changes
  | some finisher =>
    obtain ⟨⟨holdsAbort, same⟩, _⟩ :=
      Finisher.step_of_outcome ended.outcome (losers other differ finisher found)
    simp [completion_step found, same] at changes

theorem Open.wonBy_of_callback (isOpen : ending.Open callback)
    (changes :
      (ending.step place).completion.holdsCallback ≠ ending.completion.holdsCallback ∨
        (ending.step place).completion.delivered ≠ ending.completion.delivered) :
    (ending.step place).WonBy callback place := by
  refine (isOpen.step place).resolve_left ?_
  intro stillOpen
  rw [stillOpen.shared.holdsCallback, isOpen.shared.holdsCallback, stillOpen.shared.delivered,
    isOpen.shared.delivered] at changes
  exact changes.elim (fun differ => differ rfl) fun differ => differ rfl

/-! ### Every instant of every schedule -/

variable {begun : Completion α} {calls : List (Call α)}

theorem open_ofCalls (requestId : Option String) (callback abort : Bool) (calls : List (Call α)) :
    (ofCalls (.pending requestId callback abort) calls).Open callback := by
  refine ⟨⟨rfl, rfl, rfl, rfl⟩, ?_⟩
  intro finisher member
  obtain ⟨call, _, rfl⟩ := List.mem_map.mp member
  cases call <;> rfl

/-- Each attempt keeps to the result of its call. -/
theorem results_run (begun : Completion α) (calls : List (Call α)) (schedule : List Nat)
    (place : Nat) :
    ((ofCalls begun calls).run schedule).finishers[place]?.map Finisher.result =
      calls[place]?.map (Call.result begun) := by
  have kept := congrArg (Option.map Prod.fst) ((ofCalls begun calls).same_run schedule place)
  rw [Option.map_map, Option.map_map] at kept
  refine kept.trans ?_
  rw [ofCalls, List.getElem?_map, Option.map_map]
  congr 1
  funext call
  cases call <;> rfl

/-- What holds as long as a call is open. -/
theorem Open.endsOnce (isOpen : ending.Open callback)
    (same : ∀ place : Nat, ending.finishers[place]?.map Finisher.result =
      calls[place]?.map (Call.result begun)) : ending.EndsOnce callback begun calls where
  stays result stored := by
    rw [isOpen.shared.outcome] at stored
    cases stored
  atMostOne _ _ returned := absurd returned isOpen.returned_ne
  atLeastOne some allReturned := by
    have made : ending.finishers ≠ [] := fun none => some <| by
      have first := same 0
      rw [none, List.getElem?_nil, Option.map_none, eq_comm, Option.map_eq_none_iff,
        List.getElem?_eq_none_iff] at first
      exact List.eq_nil_of_length_eq_zero (Nat.le_zero.mp first)
    rw [isOpen.not_isOver made] at allReturned
    cases allReturned
  settled _ returned := absurd returned isOpen.returned_ne
  delivered := .inl isOpen.shared.delivered
  taken gone later := by
    rw [isOpen.shared.holdsCallback] at gone
    rcases isOpen.run later with stillOpen | ⟨place, won⟩
    · rw [stillOpen.shared.holdsCallback, gone]
    · obtain ⟨_, _, ended, _⟩ := won
      exact ended.holdsCallback
  ownsCallback place changes later winner returned :=
    ((isOpen.wonBy_of_callback changes).run later).eq_of_returned returned
  flagged raised := by
    rw [isOpen.shared.flag] at raised
    cases raised

/-- What holds once an attempt has ended a call. -/
theorem WonBy.endsOnce (won : ending.WonBy callback place)
    (same : ∀ place : Nat, ending.finishers[place]?.map Finisher.result =
      calls[place]?.map (Call.result begun)) : ending.EndsOnce callback begun calls where
  stays result stored later timeout := by
    have after := won.outcome_run stored later
    exact ⟨after, by rw [Completion.get, after]⟩
  atMostOne first second firstReturned secondReturned :=
    (won.eq_of_returned firstReturned).trans (won.eq_of_returned secondReturned).symm
  atLeastOne _ allReturned := ⟨place, won.returned_of_isOver allReturned⟩
  settled other returned := by
    obtain rfl := won.eq_of_returned returned
    obtain ⟨winner, held, ended, _⟩ := won
    obtain ⟨finisher, found, stage⟩ := returned_eq_some.mp returned
    obtain rfl : winner = finisher := Option.some.inj (held.symm.trans found)
    have made := same other
    rw [held, Option.map_some, eq_comm, Option.map_eq_some_iff] at made
    obtain ⟨call, called, result⟩ := made
    refine ⟨call, called, ?_, ?_⟩
    · rw [ended.outcome, result]
    · rw [ended.delivered, stage, result, Finisher.Stage.hasCalledBack, Bool.and_true]
  delivered := by
    obtain ⟨winner, _, ended, _⟩ := won
    rw [ended.delivered]
    split
    · exact .inr ⟨winner.result, ended.outcome, rfl⟩
    · exact .inl rfl
  taken _ later := by
    obtain ⟨_, _, ended, _⟩ := won.run later
    exact ended.holdsCallback
  ownsCallback other changes later winner returned := by
    obtain rfl := won.eq_of_callback changes
    exact ((won.step other).run later).eq_of_returned returned
  flagged raised := by
    obtain ⟨winner, held, ended, losers⟩ := won
    refine ⟨winner.result, ?_⟩
    intro later timeout
    have after := WonBy.outcome_run ⟨winner, held, ended, losers⟩ ended.outcome later
    exact ⟨after, by rw [Completion.wait, if_pos (flag_run raised later), after]⟩

/-- At each instant of each schedule of calls on the clones of a handle, what is under way has ended
once or not at all. -/
theorem endsOnce_run (requestId : Option String) (callback abort : Bool) (calls : List (Call α))
    (schedule : List Nat) :
    ((ofCalls (.pending requestId callback abort) calls).run schedule).EndsOnce callback
      (.pending requestId callback abort) calls := by
  have same := results_run (.pending requestId callback abort) calls schedule
  rcases (open_ofCalls requestId callback abort calls).run schedule with isOpen | ⟨place, won⟩
  · exact isOpen.endsOnce same
  · exact won.endsOnce same

end Ending

end SignedQueue

import Mathlib
import SignedQueue.Proofs.ExactlyOnce
/-!
**What readers learn of a call that is seen to have ended.** The attempt that ends a call stores the
outcome in one step and raises the flag two steps later. Readers of the outcome agree from the first
of these steps on; a reader that watches the flag may still run out of time between the two.

* `Completion.Shows`: what readers learn, given whether the flag is up;
* `Ending.toRaise`: how far the attempt that has ended a call is from raising the flag;
* `Ending.WonBy.toRaise_run`: only its own turns bring it nearer;
* `Ending.shows_of_isDone`: from the instant at which a call is seen to have ended, all readers get
  the outcome, except that waiting takes two more turns of the attempt that stored it;
* `Ending.isDone_and_wait_timedOut`: a call that has ended, and a reader that runs out of time.
-/

namespace SignedQueue

variable {α : Type}

/-! ### One reader -/

namespace Completion

/-- What readers learn of a call that has ended: all of them get the outcome, but those that watch
the flag only if it is up. -/
structure Shows (result : Outcome α) (raised : Bool) (completion : Completion α) : Prop where
  isDone : completion.isDone = true
  get : ∀ timeout, completion.get timeout = result
  wait :
    ∀ timeout, completion.wait timeout =
      if raised then result else .error (completion.timedOut timeout)

variable {callback : Bool} {completion : Completion α} {winner : Finisher α}

theorem EndedBy.shows (ended : completion.EndedBy callback winner) :
    completion.Shows winner.result winner.stage.hasRaised where
  isDone := by rw [isDone, ended.outcome, Option.isSome_some]
  get timeout := by rw [get, ended.outcome]
  wait timeout := by rw [wait, ended.flag, ended.outcome]

end Completion

/-! ### From the outcome to the flag -/

namespace Finisher

/-- How many steps bring an attempt that has stored its outcome to raise the flag. -/
def Stage.toRaise : Stage → Nat
  | .waking => 2
  | .raising => 1
  | _ => 0

theorem Stage.hasRaised_eq {stage : Stage} (stored : stage.hasStored = true) :
    stage.hasRaised = decide (stage.toRaise = 0) := by
  cases stage with
  | takingAbort | storing => cases stored
  | ended won => cases won <;> first | rfl | cases stored
  | _ => rfl

theorem toRaise_step {finisher : Finisher α} (stored : finisher.stage.hasStored = true)
    (completion : Completion α) :
    (finisher.step completion).2.stage.toRaise = finisher.stage.toRaise - 1 := by
  cases stage : finisher.stage with
  | takingAbort | storing => simp [stage, Stage.hasStored] at stored
  | callingBack =>
    rw [step_callingBack stage]
    cases finisher.cancels <;> rfl
  | ended won =>
    rw [step, stage]
    simp only [stage]
    rfl
  | _ =>
    rw [step, stage]
    rfl

end Finisher

namespace Ending

/-- How many turns bring the attempt at a place, which has stored its outcome, to raise the flag. -/
def toRaise (ending : Ending α) (place : Nat) : Nat :=
  (ending.finishers[place]?.map fun finisher => finisher.stage.toRaise).getD 0

variable {callback : Bool} {ending : Ending α} {place : Nat}

/-- Only its own turns bring the attempt that has ended a call nearer to raising the flag. -/
theorem WonBy.toRaise_step (won : ending.WonBy callback place) (turn : Nat) :
    (ending.step turn).toRaise place = ending.toRaise place - if turn = place then 1 else 0 := by
  obtain ⟨winner, held, ended, _⟩ := won
  rw [toRaise, toRaise]
  split_ifs with own
  · subst own
    rw [getElem?_step_self held, held]
    exact Finisher.toRaise_step ended.stored ending.completion
  · rw [getElem?_step_ne own]
    exact (Nat.sub_zero _).symm

theorem WonBy.toRaise_run (won : ending.WonBy callback place) (later : List Nat) :
    (ending.run later).toRaise place = ending.toRaise place - later.count place := by
  induction later generalizing ending with
  | nil => rfl
  | cons turn rest ih =>
    have now := won.toRaise_step turn
    rw [List.count_cons]
    simp only [beq_iff_eq]
    calc (ending.run (turn :: rest)).toRaise place
        = (ending.step turn).toRaise place - rest.count place := ih (won.step turn)
      _ = ending.toRaise place - (rest.count place + if turn = place then 1 else 0) := by omega

/-- Right after an attempt has ended a call, two turns of it are left up to the flag. -/
theorem Open.toRaise_step (isOpen : ending.Open callback)
    (won : (ending.step place).WonBy callback place) : (ending.step place).toRaise place = 2 := by
  obtain ⟨winner, held, ended, _⟩ := won
  cases found : ending.finishers[place]? with
  | none =>
    rw [step_of_none found, found] at held
    cases held
  | some finisher =>
    have stored := ended.stored
    have undecided := isOpen.undecided finisher (List.mem_of_getElem? found)
    have moved := getElem?_step_self found
    obtain rfl : winner = _ := Option.some.inj (held.symm.trans moved)
    rw [toRaise, held, Option.map_some, Option.getD_some]
    cases stage : finisher.stage with
    | storing =>
      rw [Finisher.step_storing stage isOpen.shared.outcome]
      rfl
    | takingAbort =>
      rw [Finisher.step_takingAbort stage] at stored
      cases stored
    | _ =>
      rw [stage] at undecided
      cases undecided

theorem WonBy.shows (won : ending.WonBy callback place) {result : Outcome α}
    (own : ending.finishers[place]?.map Finisher.result = some result) :
    ending.completion.Shows result (decide (ending.toRaise place = 0)) := by
  obtain ⟨winner, held, ended, _⟩ := won
  rw [held, Option.map_some] at own
  obtain rfl := Option.some.inj own
  rw [toRaise, held, Option.map_some, Option.getD_some, ← Finisher.Stage.hasRaised_eq ended.stored]
  exact ended.shows

theorem run_append (ending : Ending α) (schedule later : List Nat) :
    ending.run (schedule ++ later) = (ending.run schedule).run later :=
  List.foldl_append

theorem Open.isDone (isOpen : ending.Open callback) : ending.completion.isDone = false := by
  rw [Completion.isDone, isOpen.shared.outcome, Option.isSome_none]

/-- A schedule after which a call has ended has a turn at which an attempt ended it. -/
theorem Open.exists_storing (isOpen : ending.Open callback) {schedule : List Nat}
    (done : (ending.run schedule).completion.isDone = true) :
    ∃ before place after, schedule = before ++ place :: after ∧ (ending.run before).Open callback ∧
      ((ending.run before).step place).WonBy callback place := by
  induction schedule generalizing ending with
  | nil =>
    rw [Ending.run, List.foldl_nil, isOpen.isDone] at done
    cases done
  | cons turn rest ih =>
    rcases isOpen.step turn with stillOpen | won
    · obtain ⟨before, place, after, rfl, split⟩ := ih stillOpen done
      exact ⟨turn :: before, place, after, rfl, split⟩
    · exact ⟨[], turn, rest, rfl, isOpen, won⟩

/-- A call is seen to have ended. Then one of its attempts has stored the outcome, and from this
instant on every reader gets it, however the steps of the attempts go on: those that look at the
outcome at once, and those that watch the flag exactly if the attempt that stored it has had two
more turns. -/
theorem shows_of_isDone (requestId : Option String) (callback abort : Bool)
    (calls : List (Call α)) (schedule : List Nat)
    (seen : ((ofCalls (.pending requestId callback abort) calls).run
      schedule).completion.isDone = true) :
    ∃ before place after, schedule = before ++ place :: after ∧
      ((ofCalls (.pending requestId callback abort) calls).run before).completion.isDone = false ∧
        ((ofCalls (.pending requestId callback abort) calls).run
            (before ++ [place])).completion.isDone = true ∧
          ∃ call ∈ calls[place]?, ∀ later,
            ((ofCalls (.pending requestId callback abort) calls).run
                (schedule ++ later)).completion.Shows
              (call.result (.pending requestId callback abort))
              (decide (2 ≤ (after ++ later).count place)) := by
  set begun : Completion α := .pending requestId callback abort
  obtain ⟨before, place, after, rfl, isOpen, won⟩ :=
    (open_ofCalls requestId callback abort calls).exists_storing seen
  have continues (later : List Nat) :
      (ofCalls begun calls).run (before ++ place :: after ++ later) =
        (((ofCalls begun calls).run before).step place).run (after ++ later) := by
    rw [List.append_assoc, List.cons_append, run_append]
    rfl
  obtain ⟨call, called⟩ : ∃ call, calls[place]? = some call := by
    obtain ⟨winner, held, _⟩ := won.run (after ++ [])
    have own := results_run begun calls (before ++ place :: after ++ []) place
    rw [continues, held, Option.map_some, eq_comm, Option.map_eq_some_iff] at own
    obtain ⟨call, called, _⟩ := own
    exact ⟨call, called⟩
  have done : ((ofCalls begun calls).run (before ++ [place])).completion.isDone = true := by
    obtain ⟨_, _, ended, _⟩ := won
    rw [run_append]
    exact ended.shows.isDone
  refine ⟨before, place, after, rfl, isOpen.isDone, done, call, called, fun later => ?_⟩
  have own := results_run begun calls (before ++ place :: after ++ later) place
  rw [called, Option.map_some, continues] at own
  have shows := (won.run (after ++ later)).shows own
  rw [won.toRaise_run, isOpen.toRaise_step won] at shows
  simpa only [continues, Nat.sub_eq_zero_iff_le] using shows

/-- One attempt completes a call while another is about to cancel it. -/
theorem shows_of_isDone_race :
    let begun : Completion Nat := .pending none true true
    let calls : List (Call Nat) := [.complete (.ok 5), .cancel]
    ((ofCalls begun calls).run [1, 0]).completion.isDone = true ∧
      ∃ before place after, [1, 0] = before ++ place :: after ∧
        ((ofCalls begun calls).run before).completion.isDone = false ∧
          ((ofCalls begun calls).run (before ++ [place])).completion.isDone = true ∧
            ∃ call ∈ calls[place]?, ∀ later,
              ((ofCalls begun calls).run ([1, 0] ++ later)).completion.Shows (call.result begun)
                (decide (2 ≤ (after ++ later).count place)) :=
  ⟨rfl, shows_of_isDone none true true _ [1, 0] rfl⟩

/-- A completing call has stored its outcome and is about to wake the readers. The call is seen to
have ended and the outcome can be got, but a reader that waits runs out of time. -/
theorem isDone_and_wait_timedOut :
    let completion := ((ofCalls (.pending none false true) [.complete (.ok 5)]).run
      [0]).completion
    completion.isDone = true ∧ completion.get ⟨0⟩ = .ok 5 ∧
      completion.wait ⟨0⟩ = .error (completion.timedOut ⟨0⟩) ∧
        (completion.timedOut ⟨0⟩).kind = .timeout :=
  ⟨rfl, rfl, rfl, rfl⟩

end Ending

end SignedQueue

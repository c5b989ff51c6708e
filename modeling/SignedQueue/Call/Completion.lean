import SignedQueue.CallError
import SignedQueue.Log
import SignedQueue.Time.Span
/-!
**Completion of a call.** A call that is under way ends exactly once, with the outcome of its
exchange or by being cancelled. The clones of its handle share one completion: they look at it, wait
for it, and may cancel the call.

* `Completion`: what the clones share;
* `Finisher`: one attempt to end a call, with the steps between which others may go on;
* `Completion.complete`, `Completion.cancel`: attempts that nothing comes between; by
  `Completion.complete_of_none` and `Completion.complete_of_outcome` the first outcome stays;
* `Completion.get`, `Completion.wait`: what a reader learns whose time is up.
-/

namespace SignedQueue

/-- The outcome of a call. -/
abbrev Outcome (α : Type) := Except CallError α

/-- What the clones of a call's handle share. -/
structure Completion (α : Type) where
  requestId : Option String
  outcome : Option (Outcome α) := none
  /-- The flag that `wait` watches. -/
  flag : Bool := false
  /-- Whether there is a callback that has not been taken. -/
  holdsCallback : Bool := false
  /-- The outcomes that the callback has been given. -/
  delivered : List (Outcome α) := []
  /-- Whether there is a way to abort the exchange that has not been taken. -/
  holdsAbort : Bool := false
  aborted : Bool := false

/-! ### One attempt, step by step -/

/-- How far an attempt to end a call has come: what it does next, or that it has ended. -/
inductive Finisher.Stage where
  | takingAbort
  /-- It is about to store its outcome, unless there is one. -/
  | storing
  | waking
  | raising
  | dropping
  | callingBack
  | aborting
  /-- It has ended; whether it was the one that ended the call. -/
  | ended (won : Bool)
  deriving Repr, DecidableEq

/-- An attempt to end a call. -/
structure Finisher (α : Type) where
  result : Outcome α
  cancels : Bool
  tookCallback : Bool := false
  tookAbort : Bool := false
  log : List LogLine := []
  stage : Finisher.Stage

namespace Completion

/-- What the clones of a call share that has just been handed out. -/
def pending {α : Type} (requestId : Option String) (holdsCallback holdsAbort : Bool) :
    Completion α :=
  { requestId, holdsCallback, holdsAbort }

/-- The outcome of a call that has been cancelled. -/
def cancelled {α : Type} (completion : Completion α) : Outcome α :=
  .error
    { kind := .cancelled
      message := "call cancelled before completion"
      requestId := completion.requestId }

/-- The line that logs a cancellation. -/
def cancelLine {α : Type} (completion : Completion α) : LogLine :=
  ⟨.debug, "call " ++ Quoted.quoteOption completion.requestId ++ " cancelled"⟩

end Completion

namespace Finisher

variable {α : Type}

/-- The attempt to end a call with an outcome. -/
def completing (result : Outcome α) : Finisher α :=
  { result, cancels := false, stage := .storing }

/-- The attempt to cancel a call. -/
def cancelling (completion : Completion α) : Finisher α :=
  { result := completion.cancelled, cancels := true, stage := .takingAbort }

/-- Whether an attempt that has ended was the one that ended the call. -/
def won? (finisher : Finisher α) : Option Bool :=
  match finisher.stage with
  | .ended won => some won
  | _ => none

/-- The next step of an attempt. Each step but the last ones of an attempt touches what is shared
under one lock; between two steps others may change it. -/
def step (completion : Completion α) (finisher : Finisher α) : Completion α × Finisher α :=
  match finisher.stage with
  | .takingAbort =>
    ({ completion with holdsAbort := false },
      { finisher with tookAbort := completion.holdsAbort, stage := .storing })
  | .storing =>
    match completion.outcome with
    | some _ => (completion, { finisher with stage := .ended false })
    | none =>
      ({ completion with outcome := some finisher.result, holdsCallback := false },
        { finisher with tookCallback := completion.holdsCallback, stage := .waking })
  | .waking => (completion, { finisher with stage := .raising })
  | .raising => ({ completion with flag := true }, { finisher with stage := .dropping })
  | .dropping =>
    ({ completion with holdsAbort := false }, { finisher with stage := .callingBack })
  | .callingBack =>
    let completion :=
      if finisher.tookCallback then
        { completion with delivered := completion.delivered ++ [finisher.result] }
      else completion
    let finisher := { finisher with tookCallback := false }
    if finisher.cancels then
      (completion,
        { finisher with log := finisher.log ++ [completion.cancelLine], stage := .aborting })
    else (completion, { finisher with stage := .ended true })
  | .aborting =>
    ({ completion with aborted := completion.aborted || finisher.tookAbort },
      { finisher with tookAbort := false, stage := .ended true })
  | .ended _ => (completion, finisher)

/-- Some steps of an attempt that nothing comes between. -/
def steps : Nat → Completion α → Finisher α → Completion α × Finisher α
  | 0, completion, finisher => (completion, finisher)
  | count + 1, completion, finisher =>
    let next := step completion finisher
    steps count next.1 next.2

/-- The most steps that an attempt still takes. -/
def Stage.remaining : Stage → Nat
  | .takingAbort => 7
  | .storing => 6
  | .waking => 5
  | .raising => 4
  | .dropping => 3
  | .callingBack => 2
  | .aborting => 1
  | .ended _ => 0

/-- All steps that an attempt still takes, while no other goes on. -/
def finish (completion : Completion α) (finisher : Finisher α) : Completion α × Finisher α :=
  finisher.steps finisher.stage.remaining completion

end Finisher

namespace Completion

variable {α : Type}

/-! ### Ending a call -/

/-- Ends a call with an outcome, unless it has ended. -/
def complete (completion : Completion α) (result : Outcome α) : Completion α × Finisher α :=
  (Finisher.completing result).finish completion

/-- Cancels a call, unless it has ended. -/
def cancel (completion : Completion α) : Completion α × Finisher α :=
  (Finisher.cancelling completion).finish completion

theorem complete_of_outcome {completion : Completion α} {stored : Outcome α}
    (ended : completion.outcome = some stored) (result : Outcome α) :
    (completion.complete result).1 = completion ∧
      (completion.complete result).2.won? = some false := by
  simp [complete, Finisher.finish, Finisher.completing, Finisher.Stage.remaining, Finisher.steps,
    Finisher.step, Finisher.won?, ended]

theorem complete_of_none {completion : Completion α} (pending : completion.outcome = none)
    (result : Outcome α) :
    (completion.complete result).1.outcome = some result ∧
      (completion.complete result).1.flag = true ∧
        (completion.complete result).2.won? = some true := by
  cases holds : completion.holdsCallback <;>
    simp [complete, Finisher.finish, Finisher.completing, Finisher.Stage.remaining, Finisher.steps,
      Finisher.step, Finisher.won?, pending, holds]

/-! ### Looking at a call -/

/-- Whether a call has ended. -/
def isDone (completion : Completion α) : Bool :=
  completion.outcome.isSome

/-- Whether a call has ended with a value. -/
def isSuccess (completion : Completion α) : Bool :=
  match completion.outcome with
  | some (.ok _) => true
  | _ => false

/-- The error of a reader whose time is up. -/
def timedOut (completion : Completion α) (timeout : Span) : CallError :=
  { kind := .timeout
    message := "no response within " ++ timeout.text
    requestId := completion.requestId }

/-- What a reader learns at an instant at which it has the outcome or its time is up. -/
def get (completion : Completion α) (timeout : Span) : Outcome α :=
  match completion.outcome with
  | some result => result
  | none => .error (completion.timedOut timeout)

/-- What a reader that watches the flag learns at an instant at which the flag is up or its time is.
-/
def wait (completion : Completion α) (timeout : Span) : Outcome α :=
  if completion.flag then
    match completion.outcome with
    | some result => result
    | none => .error { kind := .unexpected, message := "call completed without outcome" }
  else .error (completion.timedOut timeout)

/-- How logs show a call that is waited for. -/
def describe (completion : Completion α) (timeout : Span) : String :=
  "AsyncResult \x7b request_id: " ++ Quoted.quoteOption completion.requestId ++ ", done: " ++
    toString completion.flag ++ ", timeout: " ++ timeout.text ++ " \x7d"

end Completion

end SignedQueue

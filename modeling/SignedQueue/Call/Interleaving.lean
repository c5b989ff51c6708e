import SignedQueue.Call.Completion
/-!
**Ending a call from several sides.** The exchange and any number of clones try to end a call at
once. A schedule says who takes the next step.

* `Ending`: the attempts and the completion that they share;
* `Ending.run`: the attempts after a schedule;
* `Ending.ofCalls`, `Ending.returned`: the attempts that some calls make, and what these calls give
  back.
-/

namespace SignedQueue

/-- Attempts to end a call that go on at the same time. -/
structure Ending (α : Type) where
  completion : Completion α
  finishers : List (Finisher α)

namespace Ending

variable {α : Type}

/-- The attempts after one of them has taken its next step. The turn of no attempt changes nothing.
-/
def step (ending : Ending α) (place : Nat) : Ending α :=
  match ending.finishers[place]? with
  | none => ending
  | some finisher =>
    let next := finisher.step ending.completion
    { completion := next.1, finishers := ending.finishers.set place next.2 }

/-- The attempts after a schedule of turns. -/
def run (ending : Ending α) (schedule : List Nat) : Ending α :=
  schedule.foldl step ending

/-- Whether all attempts have ended. -/
def isOver (ending : Ending α) : Bool :=
  ending.finishers.all fun finisher => finisher.won?.isSome

/-! ### Calls on one handle -/

/-- A call on a clone of a handle that ends what is under way. -/
inductive Call (α : Type) where
  | complete (result : Outcome α)
  | cancel

/-- The attempt that a call makes. -/
def Call.finisher (completion : Completion α) : Call α → Finisher α
  | .complete result => .completing result
  | .cancel => .cancelling completion

/-- What a call ends with what is under way. -/
def Call.result (completion : Completion α) : Call α → Outcome α
  | .complete result => result
  | .cancel => completion.cancelled

/-- The attempts of some calls, none of which has taken a step. -/
def ofCalls (completion : Completion α) (calls : List (Call α)) : Ending α :=
  { completion, finishers := calls.map (Call.finisher completion) }

/-- What the call at a place has given back, if it has returned: whether it was the one that ended
what is under way. -/
def returned (ending : Ending α) (place : Nat) : Option Bool :=
  ending.finishers[place]?.bind Finisher.won?

end Ending

end SignedQueue

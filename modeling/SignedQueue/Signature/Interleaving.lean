import SignedQueue.Signature.Signer
/-!
**Signing at the same time.** Any number of calls on the clones of a signer go on at once. A
schedule says whose turn it is at each instant; the calls share what is kept.

* `SignTraffic`: the calls and what they share;
* `SignTraffic.run`: the calls after a schedule.
-/

namespace SignedQueue

/-- Calls that go on at the same time. -/
structure SignTraffic where
  cache : CredentialCache
  calls : List SignCall

/-- A turn: the moment, and the place of the call that takes its next step. -/
structure Turn where
  now : Moment
  place : Nat
  deriving Repr, DecidableEq

namespace SignTraffic

/-- The calls after one of them has taken its next step. A turn of no call changes nothing. -/
def step (traffic : SignTraffic) (turn : Turn) : SignTraffic :=
  match traffic.calls[turn.place]? with
  | none => traffic
  | some call =>
    let next := call.step turn.now traffic.cache
    { cache := next.1, calls := traffic.calls.set turn.place next.2 }

/-- The calls after a schedule. -/
def run (traffic : SignTraffic) (schedule : List Turn) : SignTraffic :=
  schedule.foldl step traffic

end SignTraffic

end SignedQueue

import SignedQueue.Call.Flight
/-!
**Calls at the same time.** Any number of calls of one client are under way at once. They share what
the client's signer keeps, and nothing else.

* `Traffic`: the calls and what they share;
* `Traffic.run`: the calls after a list of events.
-/

namespace SignedQueue

/-- A flight whose value is put into another type. -/
def Flight.map {α β : Type} (wrap : α → β) (flight : Flight α) : Flight β :=
  { context := flight.context
    read := fun response => (flight.read response).map wrap
    failure := flight.failure
    abandoned := flight.abandoned
    sent := flight.sent
    stage :=
      match flight.stage with
      | .signing call => .signing call
      | .sending message => .sending message
      | .waiting => .waiting
      | .ended outcome => .ended (outcome.map wrap) }

/-- Calls that are under way at the same time. -/
structure Traffic (α : Type) where
  cache : CredentialCache
  flights : List (Flight α)

/-- What happens to one of the calls. -/
inductive TrafficEvent (α : Type) where
  | takeOff (flight : Flight α)
  | advance (now : Moment) (place : Nat)
  | land (place : Nat) (answer : Attempt Response)

namespace Traffic

variable {α : Type}

/-- The calls after an event. An event of no call changes nothing. -/
def step (traffic : Traffic α) : TrafficEvent α → Traffic α
  | .takeOff flight => { traffic with flights := traffic.flights ++ [flight] }
  | .advance now place =>
    match traffic.flights[place]? with
    | none => traffic
    | some flight =>
      let next := flight.step now traffic.cache
      { cache := next.1, flights := traffic.flights.set place next.2 }
  | .land place answer =>
    match traffic.flights[place]? with
    | none => traffic
    | some flight => { traffic with flights := traffic.flights.set place (flight.land answer) }

/-- The calls after some events. -/
def run (traffic : Traffic α) (events : List (TrafficEvent α)) : Traffic α :=
  events.foldl step traffic

end Traffic

end SignedQueue

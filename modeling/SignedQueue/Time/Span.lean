/-!
**Spans of time.** How long a call may take, in whole nanoseconds.

* `Span.text`: a span in its largest unit, with the fraction that is needed: `33s`, `61.5s`,
  `1.5ms`.
-/

namespace SignedQueue

/-- A span of time. -/
structure Span where
  nanoseconds : Nat
  deriving Repr, DecidableEq

namespace Span

/-- A span of whole microseconds. -/
def ofMicroseconds (count : Nat) : Span :=
  ⟨count * 1000⟩

/-- A span of whole milliseconds. -/
def ofMilliseconds (count : Nat) : Span :=
  ⟨count * 1000000⟩

/-- A span of whole seconds. -/
def ofSeconds (count : Nat) : Span :=
  ⟨count * 1000000000⟩

/-- The whole microseconds of a span. -/
def microseconds (span : Span) : Nat :=
  span.nanoseconds / 1000

/-- The whole milliseconds of a span. -/
def milliseconds (span : Span) : Nat :=
  span.nanoseconds / 1000000

/-- A fraction of `places` decimal places without the zeros at its end, and its point. -/
def fraction : (places : Nat) → Nat → List Char
  | 0, _ => []
  | places + 1, part =>
    if part % 10 = 0 then fraction places (part / 10)
    else
      let digits := Nat.toDigits 10 part
      '.' :: (List.replicate (places + 1 - digits.length) '0' ++ digits)

/-- A number of nanoseconds in units of ten to the power of `places`. -/
def inUnits (nanoseconds places : Nat) (unit : String) : String :=
  let size := Nat.pow 10 places
  toString (nanoseconds / size) ++ String.ofList (fraction places (nanoseconds % size)) ++ unit

/-- A span in the largest unit of which it holds at least one. -/
def text (span : Span) : String :=
  if 1000000000 ≤ span.nanoseconds then inUnits span.nanoseconds 9 "s"
  else if 1000000 ≤ span.nanoseconds then inUnits span.nanoseconds 6 "ms"
  else if 1000 ≤ span.nanoseconds then inUnits span.nanoseconds 3 "µs"
  else inUnits span.nanoseconds 0 "ns"

end Span

end SignedQueue

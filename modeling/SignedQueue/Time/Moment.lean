import SignedQueue.Time.Date
/-!
**Moments.** A moment is what a clock shows, to the nanosecond.

* `Moment.later`: the moment some seconds later;
* `Moment.date`: the date of a moment.
-/

namespace SignedQueue

/-- What a clock shows. -/
structure Moment where
  /-- The whole seconds since the beginning of 1970. -/
  seconds : Int
  /-- The nanoseconds that have passed of the second. A thousand million or more of them lie in the
  second that is inserted after it. -/
  nanoseconds : Nat := 0
  deriving Repr, DecidableEq

namespace Moment

/-- A number stands for the beginning of a second. -/
instance (seconds : Nat) : OfNat Moment seconds where
  ofNat := { seconds }

/-! ### Order -/

instance : LT Moment where
  lt first second :=
    first.seconds < second.seconds ∨
      first.seconds = second.seconds ∧ first.nanoseconds < second.nanoseconds

instance : LE Moment where
  le first second :=
    first.seconds < second.seconds ∨
      first.seconds = second.seconds ∧ first.nanoseconds ≤ second.nanoseconds

instance (first second : Moment) : Decidable (first < second) :=
  inferInstanceAs (Decidable (_ ∨ _))

instance (first second : Moment) : Decidable (first ≤ second) :=
  inferInstanceAs (Decidable (_ ∨ _))

theorem lt_iff {first second : Moment} :
    first < second ↔
      first.seconds < second.seconds ∨
        first.seconds = second.seconds ∧ first.nanoseconds < second.nanoseconds :=
  Iff.rfl

theorem le_iff {first second : Moment} :
    first ≤ second ↔
      first.seconds < second.seconds ∨
        first.seconds = second.seconds ∧ first.nanoseconds ≤ second.nanoseconds :=
  Iff.rfl

theorem lt_of_le_of_lt {first second third : Moment} (le : first ≤ second) (lt : second < third) :
    first < third := by
  rw [le_iff] at le
  rw [lt_iff] at lt ⊢
  omega

/-! ### Counting on -/

/-- The moment some seconds later. Inserted seconds do not count: clocks that are read never show
one. -/
def later (moment : Moment) (seconds : Int) : Moment :=
  { moment with seconds := moment.seconds + seconds }

theorem later_le_later {first second : Moment} (le : first ≤ second) (seconds : Int) :
    first.later seconds ≤ second.later seconds := by
  rw [le_iff] at le
  simp only [le_iff, later]
  omega

/-- The date of a moment. -/
def date (moment : Moment) : Date :=
  .ofSeconds moment.seconds moment.nanoseconds

end Moment

end SignedQueue

import RpkiOverlap.Time.Calendar
import RpkiOverlap.Time.Period

/-! # Instants

An `Instant` is a moment of universal time: whole seconds since 1970-01-01 and nanoseconds.
The nanoseconds of a leap second count on from 10⁹ in the second before it, so they stay
below 2·10⁹.

* The seconds lie between the years -262143 and 262142.
* A leap second may follow any second.  In universal time it ends a minute, but there are local
  times whose minutes end elsewhere.
* Instants are ordered by second, then by nanosecond.
* `Instant.minus?` goes back by a period, as far as the earliest instant.
-/
namespace RpkiOverlap.Time

/-- The first second of the year -262143. -/
def earliestSecond : Int := -8334601228800

/-- The last second of the year 262142. -/
def latestSecond : Int := 8210266876799

/-- A moment of universal time. -/
structure Instant where
  seconds : Int
  nanos : Nat
  earliest_le : earliestSecond ≤ seconds
  le_latest : seconds ≤ latestSecond
  nanos_lt : nanos < 2 * 10 ^ 9
  deriving DecidableEq, Repr

namespace Instant

/-- The moment with given seconds and nanoseconds, if it exists. -/
def of? (seconds : Int) (nanos : Nat) : Option Instant :=
  if h : earliestSecond ≤ seconds ∧ seconds ≤ latestSecond ∧ nanos < 2 * 10 ^ 9 then
    some ⟨seconds, nanos, h.1, h.2.1, h.2.2⟩
  else none

/-- The order in time. -/
def Later (a b : Instant) : Prop :=
  b.seconds < a.seconds ∨ (b.seconds = a.seconds ∧ b.nanos < a.nanos)

instance (a b : Instant) : Decidable (a.Later b) := inferInstanceAs (Decidable (_ ∨ _))

/-- The longest period that can be subtracted: 2⁶³ - 1 milliseconds. -/
def longestSeconds : Nat := 9223372036854775

/-- The nanoseconds of the longest period that can be subtracted. -/
def longestNanos : Nat := 807000000

/-- The moment a period earlier.  Inside a leap second, less than a second is taken from the
nanoseconds alone, and more counts from the second after.  There is no such moment when the
period is longer than the longest one or the result would be out of range. -/
def minus? (i : Instant) (p : Period) : Option Instant :=
  if longestSeconds < p.seconds ∨ (longestSeconds = p.seconds ∧ longestNanos < p.nanos) then none
  else if 10 ^ 9 ≤ i.nanos ∧ p.seconds = 0 then of? i.seconds (i.nanos - p.nanos)
  else
    let seconds := i.seconds - p.seconds + if 10 ^ 9 ≤ i.nanos then 1 else 0
    let nanos := i.nanos % 10 ^ 9
    if p.nanos ≤ nanos then of? seconds (nanos - p.nanos)
    else of? (seconds - 1) (10 ^ 9 + nanos - p.nanos)

end Instant
end RpkiOverlap.Time

import RpkiOverlap.Time.Instant

/-! # Going back by a period

`Instant.minus?` has two limits: a period may be longer than the longest one that can be taken off,
and the result may lie before the earliest instant.  Here the same subtraction is done on a scale
without limits, the nanoseconds since 1970 as an integer (`Instant.nanoseconds`,
`Period.nanoseconds`), and the two are compared.

* Both limits are one: outside of a leap second there is no result exactly when the point that the
  subtraction without limits arrives at lies before the earliest instant (`minus?_eq_none_iff`).
* Every other result is that point (`nanoseconds_of_minus?`).
* An instant comes after a point of the scale when its second is later, or the same with a greater
  fraction (`Instant.IsAfter`).  To be later than the result is to come after the point, and where
  there is no result every instant comes after it (`isAfter_minus_iff`).
-/
namespace RpkiOverlap.Time

/-- The nanoseconds from the beginning of 1970 on. -/
def Instant.nanoseconds (i : Instant) : Int := i.seconds * 10 ^ 9 + i.nanos

/-- The nanoseconds of a period. -/
def Period.nanoseconds (p : Period) : Int := p.seconds * 10 ^ 9 + p.nanos

namespace Instant

/-- The longest period that can be taken off, in nanoseconds: 2⁶³ - 1 milliseconds. -/
def longestNanoseconds : Int := (2 ^ 63 - 1) * 10 ^ 6

/-- The first point of the scale that is an instant. -/
def earliestNanoseconds : Int := earliestSecond * 10 ^ 9

/-- An instant comes after a point of the scale: in a later second, or in the same second with a
greater fraction. -/
def IsAfter (i : Instant) (t : Int) : Prop :=
  t / 10 ^ 9 < i.seconds ∨ t / 10 ^ 9 = i.seconds ∧ t % 10 ^ 9 < i.nanos

instance (i : Instant) (t : Int) : Decidable (i.IsAfter t) := inferInstanceAs (Decidable (_ ∨ _))

/-- What comes after a point comes after every earlier one. -/
theorem IsAfter.of_le {i : Instant} {t u : Int} (h : i.IsAfter u) (hle : t ≤ u) : i.IsAfter t := by
  unfold IsAfter at *
  omega

/-- All instants come after a point before the earliest one. -/
theorem isAfter_of_lt {i : Instant} {t : Int} (h : t < earliestNanoseconds) : i.IsAfter t := by
  have := i.earliest_le
  unfold IsAfter earliestNanoseconds at *
  omega

/-- Outside of a leap second, an instant is a point of the scale. -/
theorem later_iff_isAfter {i start : Instant} (h : start.nanos < 10 ^ 9) :
    i.Later start ↔ i.IsAfter start.nanoseconds := by
  unfold Later IsAfter nanoseconds
  omega

/-! ## The subtraction -/

/-- A whole second, which is not too late, and a fraction make an instant unless they lie before the
earliest one. -/
theorem of?_eq_none_iff {s : Int} {n : Nat} (hs : s ≤ latestSecond) (hn : n < 10 ^ 9) :
    of? s n = none ↔ s * 10 ^ 9 + n < earliestNanoseconds := by
  have hbounds : (earliestSecond ≤ s ∧ s ≤ latestSecond ∧ n < 2 * 10 ^ 9) ↔
      earliestSecond ≤ s := by omega
  rw [of?, dite_eq_right_iff]
  simp only [reduceCtorEq, imp_false, hbounds, earliestNanoseconds]
  omega

theorem nanoseconds_of_of? {s : Int} {n : Nat} {i : Instant} (h : of? s n = some i) :
    i.nanos = n ∧ i.nanoseconds = s * 10 ^ 9 + n := by
  rw [of?, Option.dite_none_right_eq_some] at h
  obtain ⟨_, heq⟩ := h
  cases heq
  exact ⟨rfl, rfl⟩

variable {now : Instant} {p : Period}

/-- Too long a period leads from every instant to a point before the earliest one. -/
theorem minus_lt_of_longest_lt (h : longestNanoseconds < p.nanoseconds) :
    now.nanoseconds - p.nanoseconds < earliestNanoseconds := by
  have := now.le_latest
  have := now.nanos_lt
  simp only [longestNanoseconds, earliestNanoseconds, nanoseconds, earliestSecond,
    latestSecond] at *
  omega

theorem longest_lt_iff : longestNanoseconds < p.nanoseconds ↔
    longestSeconds < p.seconds ∨ longestSeconds = p.seconds ∧ longestNanos < p.nanos := by
  have := p.nanos_lt
  simp only [longestNanoseconds, Period.nanoseconds, longestSeconds, longestNanos]
  omega

/-- A period that is not too long comes off second by second and fraction by fraction, and a second
is taken along where the fraction is too small. -/
theorem minus?_eq_of? (hnow : now.nanos < 10 ^ 9) (hlength : p.nanoseconds ≤ longestNanoseconds) :
    ∃ s n, now.minus? p = of? s n ∧ s ≤ latestSecond ∧ n < 10 ^ 9 ∧
      s * 10 ^ 9 + n = now.nanoseconds - p.nanoseconds := by
  have hshort := mt longest_lt_iff.2 (Int.not_lt.2 hlength)
  have hordinary : ¬ 10 ^ 9 ≤ now.nanos := Nat.not_le.2 hnow
  have hlatest := now.le_latest
  have hnanos := p.nanos_lt
  rw [minus?, if_neg hshort, if_neg fun h => hordinary h.1, if_neg hordinary,
    Nat.mod_eq_of_lt hnow]
  unfold nanoseconds Period.nanoseconds
  by_cases htake : p.nanos ≤ now.nanos
  · exact ⟨_, _, if_pos htake, by omega, by omega, by omega⟩
  · exact ⟨_, _, if_neg htake, by omega, by omega, by omega⟩

/-- There is no instant a period earlier exactly when the subtraction without limits leaves the
range. -/
theorem minus?_eq_none_iff (hnow : now.nanos < 10 ^ 9) :
    now.minus? p = none ↔ now.nanoseconds - p.nanoseconds < earliestNanoseconds := by
  by_cases hlength : longestNanoseconds < p.nanoseconds
  · have hnone : now.minus? p = none := if_pos (longest_lt_iff.1 hlength)
    exact iff_of_true hnone (minus_lt_of_longest_lt hlength)
  · obtain ⟨s, n, hminus, hs, hn, hpoint⟩ := minus?_eq_of? hnow (Int.not_lt.1 hlength)
    rw [hminus, of?_eq_none_iff hs hn, hpoint]

/-- The instant a period earlier, if there is one, is what the subtraction without limits arrives
at. -/
theorem nanoseconds_of_minus? (hnow : now.nanos < 10 ^ 9) {start : Instant}
    (h : now.minus? p = some start) :
    start.nanos < 10 ^ 9 ∧ start.nanoseconds = now.nanoseconds - p.nanoseconds := by
  by_cases hlength : longestNanoseconds < p.nanoseconds
  · rw [(minus?_eq_none_iff hnow).2 (minus_lt_of_longest_lt hlength)] at h
    cases h
  · obtain ⟨s, n, hminus, hs, hn, hpoint⟩ := minus?_eq_of? hnow (Int.not_lt.1 hlength)
    rw [hminus] at h
    obtain ⟨hnanos, hstart⟩ := nanoseconds_of_of? h
    exact ⟨hnanos ▸ hn, hstart.trans hpoint⟩

/-- **The limits make no difference.**  Outside of a leap second, an instant comes after the point
that the subtraction without limits arrives at exactly when it is later than the instant a period
earlier, should there be such an instant. -/
theorem isAfter_minus_iff (hnow : now.nanos < 10 ^ 9) {i : Instant} :
    i.IsAfter (now.nanoseconds - p.nanoseconds) ↔
      ∀ start, now.minus? p = some start → i.Later start := by
  cases hminus : now.minus? p with
  | none =>
    have hafter := isAfter_of_lt (i := i) ((minus?_eq_none_iff hnow).1 hminus)
    simpa using hafter
  | some start =>
    obtain ⟨hnanos, hpoint⟩ := nanoseconds_of_minus? hnow hminus
    simp only [Option.some.injEq, forall_eq', later_iff_isAfter hnanos, hpoint]

end Instant
end RpkiOverlap.Time

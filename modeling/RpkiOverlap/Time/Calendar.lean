/-! # The calendar

Dates of the proleptic Gregorian calendar and their day numbers, counted from 1970-01-01.

* `Date.dayNumber` counts the days up to a date, and `Date.ofDayNumber` finds the date of a
  day number.
* Both rest on `daysBeforeYear`, the number of days from the start of year 0 to the start of
  a year, which is negative for years before 0.
-/
namespace RpkiOverlap.Time

/-- A day of the calendar.  Years before 1 are 0, -1 and so on. -/
structure Date where
  year : Int
  month : Nat
  day : Nat
  deriving DecidableEq, Repr

/-- Whether a year has a 29th of February. -/
def isLeapYear (year : Int) : Bool :=
  year % 4 == 0 && (year % 100 != 0 || year % 400 == 0)

/-- The lengths of the months of a common or leap year. -/
def monthLengths (leap : Bool) : List Nat :=
  [31, if leap then 29 else 28, 31, 30, 31, 30, 31, 31, 30, 31, 30, 31]

namespace Date

/-- Whether the month and the day of the month exist. -/
def Valid (d : Date) : Prop :=
  1 ≤ d.month ∧ d.month ≤ 12 ∧ 1 ≤ d.day ∧
    d.day ≤ (monthLengths (isLeapYear d.year)).getD (d.month - 1) 0

instance (d : Date) : Decidable d.Valid := inferInstanceAs (Decidable (_ ∧ _))

/-- The days from the start of year 0 to the start of a year: 365 a year, and one more for
each leap year between. -/
def daysBeforeYear (year : Int) : Int :=
  365 * year + (year + 3) / 4 - (year + 99) / 100 + (year + 399) / 400

/-- The number of the day 1970-01-01 when days are counted from the start of year 0. -/
def epochDay : Int := 719528

/-- The days from the start of a year to the start of its month `month`. -/
def daysBeforeMonth (leap : Bool) (month : Nat) : Nat :=
  ((monthLengths leap).take (month - 1)).foldl (· + ·) 0

/-- The days from 1970-01-01 to a date. -/
def dayNumber (d : Date) : Int :=
  daysBeforeYear d.year + daysBeforeMonth (isLeapYear d.year) d.month + d.day - 1 - epochDay

/-- The month and day of the month of the `n`-th day of a year, counted from 0, in a year
whose remaining months are given; `month` is the first of them. -/
def ofDayOfYear (month : Nat) : List Nat → Nat → Nat × Nat
  | [], n => (month, n + 1)
  | length :: rest, n =>
    if n < length then (month, n + 1) else ofDayOfYear (month + 1) rest (n - length)

/-- The year in which a day lies, for days counted from the start of year 0.  A year has at
least 365 days and 400 years have 146097, so one division in each 400-year cycle finds the
year or the one after it. -/
def yearOfDay (n : Int) : Int :=
  let cycle := n / 146097
  let rest := n % 146097
  let guess := rest / 365
  400 * cycle + if daysBeforeYear guess ≤ rest then guess else guess - 1

/-- The date of a day number. -/
def ofDayNumber (n : Int) : Date :=
  let n := n + epochDay
  let year := yearOfDay n
  let (month, day) :=
    ofDayOfYear 1 (monthLengths (isLeapYear year)) (n - daysBeforeYear year).toNat
  ⟨year, month, day⟩

end Date
end RpkiOverlap.Time

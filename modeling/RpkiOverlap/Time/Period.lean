import RpkiOverlap.Text.Blank
import RpkiOverlap.Text.Numeral

/-! # Periods and their notation

A `Period` is a length of time in whole seconds of 64 bits and nanoseconds.

People write periods as amounts with units: `3h 30m`, `90 seconds`, `1.5h`.

* `Period.Unit.ofName?` knows the names of the units.
* `Period.read?` accepts one or more amounts.  Blanks may stand between the characters of an
  amount and around its unit; an amount may have a fraction, which must come out exact in
  nanoseconds, or in whole seconds for hours and longer units.
* Everything is computed in 64 bits, and what does not fit is refused.
-/
namespace RpkiOverlap.Time

/-- A length of time. -/
structure Period where
  seconds : Nat
  nanos : Nat
  seconds_lt : seconds < 2 ^ 64
  nanos_lt : nanos < 10 ^ 9
  deriving DecidableEq, Repr

namespace Period

/-- The period of some seconds and nanoseconds, of which there may be more than a second's;
`none` when the seconds do not fit 64 bits. -/
def of? (seconds nanos : Nat) : Option Period :=
  if h : seconds + nanos / 10 ^ 9 < 2 ^ 64 then
    some ⟨seconds + nanos / 10 ^ 9, nanos % 10 ^ 9, h, Nat.mod_lt _ (by decide)⟩
  else none

/-- No time at all. -/
def zero : Period := ⟨0, 0, by decide, by decide⟩

/-- The whole milliseconds of a period. -/
def milliseconds (p : Period) : Nat := p.seconds * 1000 + p.nanos / 10 ^ 6

/-- The units of the notation. -/
inductive Unit where
  | nanosecond
  | microsecond
  | millisecond
  | second
  | minute
  | hour
  | day
  | week
  | month
  | year
  deriving DecidableEq, Repr

namespace Unit

/-- The names of each unit.  Letter case counts: `m` is a minute and `M` a month. -/
def names : List (Unit × List String) :=
  [(nanosecond, ["nanos", "nsec", "ns"]),
    (microsecond, ["usec", "us", "µs"]),
    (millisecond, ["millis", "msec", "ms"]),
    (second, ["seconds", "second", "secs", "sec", "s"]),
    (minute, ["minutes", "minute", "mins", "min", "m"]),
    (hour, ["hours", "hour", "hrs", "hr", "h"]),
    (day, ["days", "day", "d"]),
    (week, ["weeks", "week", "wks", "wk", "w"]),
    (month, ["months", "month", "M"]),
    (year, ["years", "year", "yrs", "yr", "y"])]

/-- The unit with a given name. -/
def ofName? (name : List Char) : Option Unit :=
  (names.find? fun entry => entry.2.any fun n => n.toList = name).map Prod.fst

/-- Whether whole amounts of the unit are counted in seconds, and how many seconds or
nanoseconds one unit has. -/
def scale : Unit → Bool × Nat
  | nanosecond => (false, 1)
  | microsecond => (false, 1000)
  | millisecond => (false, 1000000)
  | second => (true, 1)
  | minute => (true, 60)
  | hour => (true, 3600)
  | day => (true, 86400)
  | week => (true, 604800)
  | month => (true, 2630016)
  | year => (true, 31557600)

/-- The same for fractions of the unit.  Fractions of a second or minute are counted in
nanoseconds, and a nanosecond has none. -/
def fractionScale? : Unit → Option (Bool × Nat)
  | nanosecond => none
  | second => some (false, 1000000000)
  | minute => some (false, 60000000000)
  | unit => some unit.scale

end Unit

/-- A fraction of digits after the point: its numerator over a power of ten. -/
structure Fraction where
  numerator : Nat
  denominator : Nat

/-- Adds seconds and nanoseconds, within 64 bits each. -/
def add? (p : Period) (seconds nanos : Nat) : Option Period :=
  if p.nanos + nanos < 2 ^ 64 then of? (p.seconds + seconds) (p.nanos + nanos) else none

/-- Adds a count of seconds or nanoseconds. -/
def addScaled? (p : Period) (inSeconds : Bool) (count : Nat) : Option Period :=
  if inSeconds then p.add? count 0 else p.add? 0 count

/-- Adds a whole amount of a unit. -/
def addWhole? (p : Period) (unit : Unit) (amount : Nat) : Option Period :=
  let (inSeconds, scale) := unit.scale
  if amount * scale < 2 ^ 64 then p.addScaled? inSeconds (amount * scale) else none

/-- Adds a fraction of a unit, which has to be a whole count. -/
def addFraction? (p : Period) (unit : Unit) (f : Fraction) : Option Period := do
  let (inSeconds, scale) ← unit.fractionScale?
  if f.numerator * scale < 2 ^ 64 ∧ f.numerator * scale % f.denominator = 0 then
    p.addScaled? inSeconds (f.numerator * scale / f.denominator)
  else none

/-- Whether a character can be part of a unit's name. -/
def isUnitChar (c : Char) : Bool := ('a' ≤ c && c ≤ 'z') || ('A' ≤ c && c ≤ 'Z') || c == 'µ'

/-- What has been read of a notation. -/
inductive Stage where
  /-- An amount is expected. -/
  | start
  /-- Inside the whole part of an amount. -/
  | whole (amount : Nat)
  /-- After the point of an amount. -/
  | fraction (amount : Nat) (f : Fraction)
  /-- Inside the name of a unit, whose last letter comes first. -/
  | unit (amount : Nat) (f : Option Fraction) (name : List Char)

/-- Closes an amount: its unit has ended. -/
def close? (total : Period) (amount : Nat) (f : Option Fraction) (name : List Char) :
    Option Period := do
  let unit ← Unit.ofName? name.reverse
  let total ← total.addWhole? unit amount
  match f with
  | none => return total
  | some f => total.addFraction? unit f

/-- Appends a digit to a number of 64 bits. -/
def appendDigit? (n d : Nat) : Option Nat := if n * 10 + d < 2 ^ 64 then some (n * 10 + d) else none

/-- Reads one character of a notation. -/
def step? (total : Period) (stage : Stage) (c : Char) : Option (Period × Stage) :=
  let digit := Text.digitValue? 10 c
  match stage with
  | .start =>
    match digit with
    | some d => some (total, .whole d)
    | none => if Text.isBlank c then some (total, .start) else none
  | .whole amount =>
    match digit with
    | some d => (appendDigit? amount d).map fun n => (total, .whole n)
    | none =>
      if Text.isBlank c then some (total, .whole amount)
      else if isUnitChar c then some (total, .unit amount none [c])
      else if c = '.' then some (total, .fraction amount ⟨0, 1⟩)
      else none
  | .fraction amount f =>
    match digit with
    | some d => do
      let numerator ← appendDigit? f.numerator d
      let denominator ← appendDigit? f.denominator 0
      return (total, .fraction amount ⟨numerator, denominator⟩)
    | none =>
      if Text.isBlank c then some (total, .fraction amount f)
      else if isUnitChar c ∧ f.denominator ≠ 1 then some (total, .unit amount (some f) [c])
      else none
  | .unit amount f name =>
    match digit with
    | some d => (close? total amount f name).map fun total => (total, .whole d)
    | none =>
      if Text.isBlank c then (close? total amount f name).map fun total => (total, .start)
      else if isUnitChar c then some (total, .unit amount f (c :: name))
      else none

/-- Reads the amounts of a notation, one character after the other. -/
def readFrom? (total : Period) (stage : Stage) : List Char → Option (Period × Stage)
  | [] => some (total, stage)
  | c :: r => do
    let (total, stage) ← step? total stage c
    readFrom? total stage r

/-- Reads a period.  A lone `0` needs no unit. -/
def read? (text : List Char) : Option Period :=
  if text = ['0'] then some zero
  else
    match readFrom? zero .start text with
    | some (total, .unit amount f name) => close? total amount f name
    | some (total, .start) => if text.all Text.isBlank then none else some total
    | _ => none

end Period
end RpkiOverlap.Time

import RpkiOverlap.Time.Instant

/-! # Timestamps

The text of an instant: a date, a time of day and an offset from universal time, as in
`2024-06-01T12:00:00.250+02:00`.

* `Instant.print` writes an instant in universal time.  A fraction has three, six or nine
  digits, as few as it needs; a year outside 0 … 9999 has a sign; a leap second is written as
  the second after the one that it follows, which is second 60 at the end of a minute.
* `Instant.read?` is more tolerant.  Numbers may have fewer digits, blanks may stand between
  the parts, `t` or a blank may stand for `T`, digits of a fraction past the ninth are
  dropped, and the offset may be `Z`, `UTC` or signed hours and minutes.
-/
namespace RpkiOverlap.Time
open Text

/-! ### Writing -/

/-- The text of a year: four digits, or a sign and at least four digits. -/
def printYear (year : Int) : List Char :=
  if 0 ≤ year ∧ year ≤ 9999 then padded 4 year.toNat
  else (if year < 0 then '-' else '+') :: padded 4 year.natAbs

/-- The text of a fraction of a second. -/
def printFraction (nanos : Nat) : List Char :=
  if nanos = 0 then []
  else if nanos % 1000000 = 0 then '.' :: padded 3 (nanos / 1000000)
  else if nanos % 1000 = 0 then '.' :: padded 6 (nanos / 1000)
  else '.' :: padded 9 nanos

/-- The text of an instant in universal time, with the given spelling of its offset. -/
def Instant.printWith (i : Instant) (offset : List Char) : List Char :=
  let date := Date.ofDayNumber (i.seconds / 86400)
  let second := (i.seconds % 86400).toNat
  printYear date.year ++ '-' :: padded 2 date.month ++ '-' :: padded 2 date.day
    ++ 'T' :: padded 2 (second / 3600) ++ ':' :: padded 2 (second / 60 % 60)
    ++ ':' :: padded 2 (second % 60 + i.nanos / 10 ^ 9)
    ++ printFraction (i.nanos % 10 ^ 9) ++ offset

/-- The text of an instant with the offset `+00:00`. -/
def Instant.print (i : Instant) : String := .ofList (i.printWith ['+', '0', '0', ':', '0', '0'])

/-- The text of an instant with the offset `Z`. -/
def Instant.printZulu (i : Instant) : List Char := i.printWith ['Z']

/-! ### Reading

Each reader takes a part from the front of a text and returns its value and what follows. -/

/-- Reads one up to `most` digits. -/
def readDigits? (most : Nat) (s : List Char) : Option (Nat × List Char) :=
  let digits := (s.take most).takeWhile Char.isDigit
  if digits = [] then none
  else some (Nat.ofDigitChars 10 digits 0, s.drop digits.length)

/-- Reads a number of one or two digits after blanks. -/
def readPair? (s : List Char) : Option (Nat × List Char) := readDigits? 2 (trimStart s)

/-- Reads a year after blanks: up to four digits, or a sign and any number of digits. -/
def readYear? (s : List Char) : Option (Int × List Char) :=
  match trimStart s with
  | '-' :: r => (readDigits? r.length r).map fun p => (-(p.1 : Int), p.2)
  | '+' :: r => (readDigits? r.length r).map fun p => ((p.1 : Int), p.2)
  | r => (readDigits? 4 r).map fun p => ((p.1 : Int), p.2)

/-- Takes one character from the front, after blanks. -/
def readMark? (mark : Char) (s : List Char) : Option (List Char) :=
  match trimStart s with
  | c :: r => if c = mark then some r else none
  | [] => none

/-- Reads a date. -/
def readDate? (s : List Char) : Option (Date × List Char) := do
  let (year, s) ← readYear? s
  let s ← readMark? '-' s
  let (month, s) ← readPair? s
  let s ← readMark? '-' s
  let (day, s) ← readPair? s
  return (⟨year, month, day⟩, s)

/-- Reads a fraction of a second, in nanoseconds, if there is one. -/
def readFraction? : List Char → Option (Nat × List Char)
  | '.' :: s =>
    (readDigits? 9 s).map fun p =>
      (p.1 * 10 ^ (9 - (s.length - p.2.length)), p.2.dropWhile Char.isDigit)
  | s => some (0, s)

/-- Reads a time of day, as hours, minutes, seconds and nanoseconds. -/
def readTime? (s : List Char) : Option ((Nat × Nat × Nat × Nat) × List Char) := do
  let (hour, s) ← readPair? s
  let s ← readMark? ':' s
  let (minute, s) ← readPair? s
  let s ← readMark? ':' s
  let (second, s) ← readPair? s
  let (nanos, s) ← readFraction? s
  return ((hour, minute, second, nanos), s)

/-- Reads exactly two digits. -/
def readTwoDigits? : List Char → Option (Nat × List Char)
  | a :: b :: r => do
    let a ← digitValue? 10 a
    let b ← digitValue? 10 b
    return (10 * a + b, r)
  | _ => none

/-- Reads an offset without its sign, in seconds.  Colons and blanks may stand between hours
and minutes. -/
def readOffsetSize? (s : List Char) : Option (Nat × List Char) := do
  let (hours, s) ← readTwoDigits? s
  let (minutes, s) ← readTwoDigits? (s.dropWhile fun c => c == ':' || isBlank c)
  if minutes < 60 then return (hours * 3600 + minutes * 60, s) else none

/-- Reads an offset from universal time, in seconds.  Both hyphen and minus sign are
negative. -/
def readOffset? : List Char → Option (Int × List Char)
  | 'Z' :: r => some (0, r)
  | 'z' :: r => some (0, r)
  | '+' :: r => (readOffsetSize? r).map fun p => ((p.1 : Int), p.2)
  | '-' :: r => (readOffsetSize? r).map fun p => (-(p.1 : Int), p.2)
  | '−' :: r => (readOffsetSize? r).map fun p => (-(p.1 : Int), p.2)
  | u :: t :: c :: r =>
    if (u == 'U' || u == 'u') && (t == 'T' || t == 't') && (c == 'C' || c == 'c') then some (0, r)
    else none
  | _ => none

/-- The instant at a date, time of day and offset.  Second 60 is the leap second after second
59, and both the local and the universal date have to lie in range. -/
def Instant.ofParts? (date : Date) (hour minute second nanos : Nat) (offset : Int) :
    Option Instant :=
  if date.Valid ∧ hour < 24 ∧ minute < 60 ∧ second ≤ 60 ∧ offset.natAbs < 86400 then
    let leap := second = 60
    let inMinute : Nat := if leap then 59 else second
    let seconds := date.dayNumber * 86400 + (hour * 3600 + minute * 60 + inMinute : Nat)
    if earliestSecond ≤ seconds ∧ seconds ≤ latestSecond then
      of? (seconds - offset) (if leap then 10 ^ 9 + nanos else nanos)
    else none
  else none

/-- Reads a timestamp. -/
def Instant.read? (text : List Char) : Option Instant := do
  let (date, s) ← readDate? text
  let s ← match s with
    | 'T' :: r => some r
    | 't' :: r => some r
    | ' ' :: r => some r
    | _ => none
  let ((hour, minute, second, nanos), s) ← readTime? s
  let (offset, s) ← readOffset? (trimStart s)
  if s.all isBlank then ofParts? date hour minute second nanos offset else none

end RpkiOverlap.Time

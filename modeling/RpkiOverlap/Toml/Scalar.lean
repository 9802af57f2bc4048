import RpkiOverlap.Text.Numeral
import RpkiOverlap.Time.Calendar

/-! # Values of TOML, and the numbers and dates among them

`Item` is what a document holds.  Of floating-point numbers and dates only the presence is kept:
no setting of the library is one.  A `TableKind` tells how a table came about, because that decides
what may still be added to it.

The readers of numbers and dates are here.

* Integers have 64 bits; they are decimal with a sign, or hexadecimal, octal or binary.
* Floating-point numbers have a fraction or an exponent, or are infinite or no number.
* Dates and times stand alone or together, and together they may have an offset.

Single underscores may stand between digits.  Every reader gives the value and what follows it.
-/
namespace RpkiOverlap.Toml
open Text (digitValue?)

/-! ### Values -/

/-- How a table came about. -/
inductive TableKind where
  /-- By a header of its own, or as an element of an array of tables. -/
  | header
  /-- By a header of a table inside of it. -/
  | implied
  /-- By a dotted key. -/
  | dotted
  /-- By a value in braces. -/
  | inline
  deriving DecidableEq, Repr

/-- A value. -/
inductive Item where
  | string (text : String)
  | integer (n : Int)
  | float
  | boolean (value : Bool)
  | datetime
  | array (items : List Item)
  | table (kind : TableKind) (entries : List (String × Item))
  /-- An array of tables that is written with headers. -/
  | tables (elements : List (List (String × Item)))
  deriving Repr

/-- The entries of a table, in the order in which they appear. -/
abbrev Entries := List (String × Item)

/-! ### Digits -/

/-- Reads further digits, each of which may have an underscore before it. -/
def moreDigits? (base : Nat) : List Char → Option (List Nat × List Char)
  | '_' :: c :: r => do
    let d ← digitValue? base c
    let (ds, r) ← moreDigits? base r
    return (d :: ds, r)
  | ['_'] => none
  | c :: r =>
    match digitValue? base c with
    | none => some ([], c :: r)
    | some d => (moreDigits? base r).map fun p => (d :: p.1, p.2)
  | [] => some ([], [])

/-- Reads digits, at least one. -/
def digits? (base : Nat) : List Char → Option (List Nat × List Char)
  | c :: r => do
    let d ← digitValue? base c
    let (ds, r) ← moreDigits? base r
    return (d :: ds, r)
  | [] => none

/-- Reads digits without a leading zero. -/
def plainDigits? : List Char → Option (List Nat × List Char)
  | '0' :: r => some ([0], r)
  | s => digits? 10 s

/-- The value of digits. -/
def valueOf (base : Nat) (digits : List Nat) : Nat :=
  digits.foldl (fun n d => base * n + d) 0

/-- Reads a sign: whether the number is negative, and what follows. -/
def sign : List Char → Bool × List Char
  | '+' :: r => (false, r)
  | '-' :: r => (true, r)
  | r => (false, r)

/-! ### Integers -/

/-- An integer of 64 bits. -/
def integerOf? (negative : Bool) (n : Nat) : Option Item :=
  if negative then if n ≤ 2 ^ 63 then some (.integer (-n)) else none
  else if n < 2 ^ 63 then some (.integer n) else none

/-- Reads the digits of an integer that is not decimal. -/
def based? (base : Nat) (s : List Char) : Option (Item × List Char) := do
  let (ds, r) ← digits? base s
  return (← integerOf? false (valueOf base ds), r)

/-- Reads an integer. -/
def integer? : List Char → Option (Item × List Char)
  | '0' :: 'x' :: r => based? 16 r
  | '0' :: 'o' :: r => based? 8 r
  | '0' :: 'b' :: r => based? 2 r
  | s => do
    let (negative, r) := sign s
    let (ds, r) ← plainDigits? r
    return (← integerOf? negative (valueOf 10 ds), r)

/-! ### Floating-point numbers -/

/-- Whether a decimal number rounds to infinity in double precision. -/
def roundsToInfinity (significand : Nat) (exponent : Int) : Bool :=
  let digits := (Text.decimal significand).length
  if significand = 0 ∨ digits + exponent < 300 then false
  else if 310 < digits + exponent then true
  else if 0 ≤ exponent then 2 ^ 1024 - 2 ^ 970 ≤ significand * 10 ^ exponent.toNat
  else (2 ^ 1024 - 2 ^ 970) * 10 ^ exponent.natAbs ≤ significand

/-- Reads an exponent. -/
def exponent? : List Char → Option (Int × List Char)
  | e :: r =>
    if e = 'e' ∨ e = 'E' then do
      let (negative, r) := sign r
      let (ds, r) ← digits? 10 r
      return (if negative then -(valueOf 10 ds) else valueOf 10 ds, r)
    else none
  | [] => none

/-- The number with given digits before and after the point.  A positive one is not too large;
a negative one may be, and is infinite then. -/
def floatOf? (negative : Bool) (whole fraction : List Nat) (exponent : Int) : Option Item :=
  if !negative ∧ roundsToInfinity (valueOf 10 (whole ++ fraction)) (exponent - fraction.length)
  then none
  else some .float

/-- Reads the names of the values that are no finite numbers. -/
def special? : List Char → Option (List Char)
  | 'i' :: 'n' :: 'f' :: r => some r
  | 'n' :: 'a' :: 'n' :: r => some r
  | _ => none

/-- Reads a number with a fraction or an exponent. -/
def float? (s : List Char) : Option (Item × List Char) :=
  let (negative, r) := sign s
  match special? r with
  | some r => some (.float, r)
  | none => do
    let (whole, r) ← plainDigits? r
    match r with
    | '.' :: r =>
      let (fraction, r) ← digits? 10 r
      let (exponent, r) := (exponent? r).getD (0, r)
      return (← floatOf? negative whole fraction exponent, r)
    | r =>
      let (exponent, r) ← exponent? r
      return (← floatOf? negative whole [] exponent, r)

/-! ### Dates and times -/

/-- Reads exactly so many digits. -/
def fixedDigits? (count : Nat) (s : List Char) : Option (Nat × List Char) := do
  let ds ← (s.take count).mapM (digitValue? 10)
  if ds.length = count then some (valueOf 10 ds, s.drop count) else none

/-- Drops a given character from the front. -/
def dropChar? (c : Char) : List Char → Option (List Char)
  | d :: r => if c = d then some r else none
  | [] => none

/-- Reads a date of the calendar. -/
def date? (s : List Char) : Option (List Char) := do
  let (year, r) ← fixedDigits? 4 s
  let (month, r) ← fixedDigits? 2 (← dropChar? '-' r)
  let (day, r) ← fixedDigits? 2 (← dropChar? '-' r)
  if Time.Date.Valid ⟨year, month, day⟩ then some r else none

/-- Reads an hour and a minute. -/
def hourMinute? (s : List Char) : Option (List Char) := do
  let (hour, r) ← fixedDigits? 2 s
  let (minute, r) ← fixedDigits? 2 (← dropChar? ':' r)
  if hour < 24 ∧ minute < 60 then some r else none

/-- Reads a time of day.  The second may be a leap second and have a fraction. -/
def time? (s : List Char) : Option (List Char) := do
  let r ← hourMinute? s
  let (second, r) ← fixedDigits? 2 (← dropChar? ':' r)
  if 60 < second then none
  else
    match r with
    | '.' :: c :: r => if c.isDigit then some (r.dropWhile Char.isDigit) else some ('.' :: c :: r)
    | r => some r

/-- Reads an offset from universal time. -/
def offset? : List Char → Option (List Char)
  | 'Z' :: r => some r
  | 'z' :: r => some r
  | '+' :: r => hourMinute? r
  | '-' :: r => hourMinute? r
  | _ => none

/-- Reads the time after a date, and its offset. -/
def timeAfterDate? : List Char → Option (List Char)
  | c :: r =>
    if c = 'T' ∨ c = 't' ∨ c = ' ' then (time? r).map fun r => (offset? r).getD r else none
  | [] => none

/-- Reads a date, a time, or both. -/
def datetime? (s : List Char) : Option (Item × List Char) :=
  match date? s with
  | some r => some (.datetime, (timeAfterDate? r).getD r)
  | none => (time? s).map fun r => (.datetime, r)

/-! ### All of them -/

/-- Reads a number, a date or a time. -/
def number? (s : List Char) : Option (Item × List Char) :=
  datetime? s <|> float? s <|> integer? s

/-- Reads a truth value. -/
def boolean? : List Char → Option (Item × List Char)
  | 't' :: 'r' :: 'u' :: 'e' :: r => some (.boolean true, r)
  | 'f' :: 'a' :: 'l' :: 's' :: 'e' :: r => some (.boolean false, r)
  | _ => none

end RpkiOverlap.Toml

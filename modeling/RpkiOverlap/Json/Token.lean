import RpkiOverlap.Text.Numeral

/-! # JSON tokens

The lexical level of JSON: punctuation, words, strings and numbers, with blanks between
them.

* `Token.ofText?` cuts a text into tokens.
* A string token keeps its text, or nothing when an escape names half of a surrogate pair;
  a number token keeps its kind, or nothing when the number is beyond double precision.
  Such tokens are well formed, but denote no value.
* `readString?` and `readNumber?` read one string or number from the front of a text and
  return what follows it.
* Numbers keep only what their readers ask of them (`JsonNumber`): whether they are natural
  numbers of 64 bits, negative integers, or anything else.
-/
namespace RpkiOverlap

/-- A JSON number. -/
inductive JsonNumber where
  /-- A natural number of 64 bits. -/
  | natural (n : Nat)
  /-- Minus a positive number, down to `-2 ^ 63`. -/
  | negative (n : Nat)
  /-- Any other number inside the range of double precision. -/
  | real
  deriving DecidableEq, Repr

namespace Json
open Text

/-- The lexical units of JSON. -/
inductive Token where
  | openBracket
  | closeBracket
  | openBrace
  | closeBrace
  | comma
  | colon
  | null
  | bool (value : Bool)
  | string (text : Option String)
  | number (value : Option JsonNumber)
  deriving DecidableEq, Repr

/-! ### Strings -/

/-- The value of four hexadecimal digits. -/
def hex4? (a b c d : Char) : Option Nat := do
  let a ← digitValue? 16 a
  let b ← digitValue? 16 b
  let c ← digitValue? 16 c
  let d ← digitValue? 16 d
  return ((a * 16 + b) * 16 + c) * 16 + d

/-- A unit of a string between its quotes. -/
inductive StringUnit where
  | char (c : Char)
  /-- A code of four hexadecimal digits. -/
  | code (n : Nat)

/-- The characters that stand for themselves or others after a backslash. -/
def simpleEscape? : Char → Option Char
  | '"' => some '"'
  | '\\' => some '\\'
  | '/' => some '/'
  | 'b' => some '\x08'
  | 'f' => some '\x0c'
  | 'n' => some '\n'
  | 'r' => some '\r'
  | 't' => some '\t'
  | _ => none

/-- Reads the units of a string up to its closing quote, and returns what follows. -/
def readUnits? : List Char → Option (List StringUnit × List Char)
  | [] => none
  | '"' :: r => some ([], r)
  | '\\' :: 'u' :: a :: b :: c :: d :: r => do
    let n ← hex4? a b c d
    let (us, r) ← readUnits? r
    return (.code n :: us, r)
  | '\\' :: e :: r => do
    let c ← simpleEscape? e
    let (us, r) ← readUnits? r
    return (.char c :: us, r)
  | c :: r =>
    if c.toNat < 0x20 ∨ c = '\\' then none
    else (readUnits? r).map fun p => (.char c :: p.1, p.2)

/-- The characters of string units.  Two codes of a surrogate pair are one character, and a
code of half a pair alone is none. -/
def joinUnits? : List StringUnit → Option (List Char)
  | [] => some []
  | .char c :: us => (joinUnits? us).map (c :: ·)
  | .code n :: us =>
    if 0xD800 ≤ n ∧ n ≤ 0xDBFF then
      match us with
      | .code m :: us =>
        if 0xDC00 ≤ m ∧ m ≤ 0xDFFF then
          (joinUnits? us).map (.ofNat (0x10000 + (n - 0xD800) * 0x400 + (m - 0xDC00)) :: ·)
        else none
      | _ => none
    else if 0xDC00 ≤ n ∧ n ≤ 0xDFFF then none
    else (joinUnits? us).map (.ofNat n :: ·)

/-- Reads a string after its opening quote. -/
def readString? (s : List Char) : Option (Option String × List Char) :=
  (readUnits? s).map fun p => ((joinUnits? p.1).map .ofList, p.2)

/-! ### Numbers -/

/-- A number rounded to a significand of 53 bits, a tie to the even one. -/
def roundSignificand (n : Nat) : Nat :=
  let extra := n.log2 - 52
  let quotient := n >>> extra
  let rest := n % 2 ^ extra
  let up := 2 ^ extra < 2 * rest || (2 ^ extra == 2 * rest && quotient % 2 == 1)
  (if up then quotient + 1 else quotient) <<< extra

/-- Whether `significand · 10 ^ exponent` stays in the range of double precision, when both
factors are rounded before they are multiplied. -/
def isFinite (significand : Nat) (exponent : Int) : Bool :=
  significand == 0 || exponent < 0 ||
    (exponent ≤ 308 &&
      roundSignificand significand * roundSignificand (10 ^ exponent.toNat)
        < 2 ^ 1024 - 2 ^ 970)

/-- The digits of a number as a significand of 64 bits and a power of ten.  Digits that no
longer fit are dropped; `point` tells how much a dropped and a kept digit add to the power. -/
def scan (dropped kept : Int) : Nat × Int → List Char → Nat × Int
  | acc, [] => acc
  | (significand, exponent), c :: r =>
    let next := significand * 10 + (c.toNat - 48)
    if next < 2 ^ 64 then scan dropped kept (next, exponent + kept) r
    else
      (significand, exponent + dropped * (c :: r).length)

/-- The digits at the front of a text, and what follows. -/
def digits (s : List Char) : List Char × List Char :=
  (s.takeWhile Char.isDigit, s.dropWhile Char.isDigit)

/-- Reads the fraction of a number, if it has one: the digits after the point. -/
def readFraction? : List Char → Option (Option (List Char) × List Char)
  | '.' :: r => if (digits r).1 = [] then none else some (some (digits r).1, (digits r).2)
  | r => some (none, r)

/-- Reads the digits of an exponent with the given sign. -/
def readExponentDigits? (sign : Int) (s : List Char) : Option (Option Int × List Char) :=
  if (digits s).1 = [] then none
  else some (some (sign * Nat.ofDigitChars 10 (digits s).1 0), (digits s).2)

/-- Reads the exponent of a number, if it has one. -/
def readExponent? : List Char → Option (Option Int × List Char)
  | e :: r =>
    if e = 'e' ∨ e = 'E' then
      match r with
      | '+' :: r => readExponentDigits? 1 r
      | '-' :: r => readExponentDigits? (-1) r
      | r => readExponentDigits? 1 r
    else some (none, e :: r)
  | [] => some (none, [])

/-- The kind of a number with the given parts; `none` when it is out of range. -/
def classify (negative : Bool) (whole : List Char) (fraction : Option (List Char))
    (exponent : Option Int) : Option JsonNumber :=
  let n := Nat.ofDigitChars 10 whole 0
  let isInteger := fraction.isNone && exponent.isNone
  if isInteger && !negative && n < 2 ^ 64 then some (.natural n)
  else if isInteger && negative && 0 < n && n ≤ 2 ^ 63 then some (.negative n)
  else
    let front := scan 1 0 (0, 0) whole
    let (significand, power) := scan 0 (-1) front (fraction.getD [])
    if isFinite significand (power + exponent.getD 0) then some .real else none

/-- Reads a number without its sign. -/
def readUnsigned? (negative : Bool) (s : List Char) : Option (Option JsonNumber × List Char) := do
  let (whole, r) := digits s
  if whole = [] ∨ (whole.head? = some '0' ∧ whole.length ≠ 1) then none
  let (fraction, r) ← readFraction? r
  let (exponent, r) ← readExponent? r
  return (classify negative whole fraction exponent, r)

/-- Reads a number. -/
def readNumber? : List Char → Option (Option JsonNumber × List Char)
  | '-' :: r => readUnsigned? true r
  | s => readUnsigned? false s

/-! ### Tokens -/

/-- Whether a character is a blank of JSON. -/
def isBlank (c : Char) : Bool := c == ' ' || c == '\n' || c == '\t' || c == '\r'

/-- Takes a given beginning from the front of a text. -/
def dropWord? (word s : List Char) : Option (List Char) :=
  if word.isPrefixOf s then some (s.drop word.length) else none

/-- Reads one token from the front of a text that starts with no blank. -/
def Token.read? : List Char → Option (Token × List Char)
  | [] => none
  | '[' :: r => some (.openBracket, r)
  | ']' :: r => some (.closeBracket, r)
  | '{' :: r => some (.openBrace, r)
  | '}' :: r => some (.closeBrace, r)
  | ',' :: r => some (.comma, r)
  | ':' :: r => some (.colon, r)
  | '"' :: r => (readString? r).map fun p => (.string p.1, p.2)
  | 'n' :: r => (dropWord? ['u', 'l', 'l'] r).map fun r => (.null, r)
  | 't' :: r => (dropWord? ['r', 'u', 'e'] r).map fun r => (.bool true, r)
  | 'f' :: r => (dropWord? ['a', 'l', 's', 'e'] r).map fun r => (.bool false, r)
  | s => (readNumber? s).map fun p => (.number p.1, p.2)

/-- Cuts a text into tokens.  Every token is at least one character, which bounds the number
of steps by the length of the text. -/
def tokensWithin? : Nat → List Char → Option (List Token)
  | steps, s =>
    match s.dropWhile isBlank, steps with
    | [], _ => some []
    | _, 0 => none
    | s, steps + 1 => do
      let (token, r) ← Token.read? s
      let tokens ← tokensWithin? steps r
      return token :: tokens

/-- The tokens of a text. -/
def tokens? (s : List Char) : Option (List Token) := tokensWithin? s.length s

end Json
end RpkiOverlap

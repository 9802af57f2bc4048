import RpkiOverlap.Range.Basic

/-! # Numerals

Reading and writing of numbers in decimal and hexadecimal notation.

* `digitValue?` is the value of one digit of a base up to sixteen, in either letter case.
* `readNat` reads a decimal numeral of so many bits, with an optional leading `+`.  It works
  from left to right and reports the first obstacle: a character that is no digit, or the
  digit with which the value becomes too large.
* `decimal`, `hexadecimal` and `padded` write numerals; hexadecimal digits are lower case.
-/
namespace RpkiOverlap.Text

/-- Why a text is not a numeral of the given number of bits. -/
inductive NumeralError where
  | empty
  | invalidDigit
  | tooLarge
  deriving DecidableEq, Repr

/-- The wording of a numeral error. -/
def NumeralError.message : NumeralError → String
  | .empty => "cannot parse integer from empty string"
  | .invalidDigit => "invalid digit found in string"
  | .tooLarge => "number too large to fit in target type"

/-- The value of a digit in a base of at most sixteen. -/
def digitValue? (base : Nat) (c : Char) : Option Nat :=
  let value :=
    if '0' ≤ c ∧ c ≤ '9' then c.toNat - 48
    else if 'a' ≤ c ∧ c ≤ 'f' then c.toNat - 87
    else if 'A' ≤ c ∧ c ≤ 'F' then c.toNat - 55
    else base
  if value < base then some value else none

/-- Continues a decimal numeral of `bits` bits whose digits so far have the value `value`. -/
def readDigits {bits : Nat} (value : Fin (2 ^ bits)) :
    List Char → Except NumeralError (Fin (2 ^ bits))
  | [] => .ok value
  | c :: r =>
    match digitValue? 10 c with
    | none => .error .invalidDigit
    | some d =>
      if h : 10 * value.val + d < 2 ^ bits then readDigits ⟨10 * value.val + d, h⟩ r
      else .error .tooLarge

/-- Reads a decimal numeral of `bits` bits; one leading `+` is allowed. -/
def readNat (bits : Nat) (s : List Char) : Except NumeralError (Fin (2 ^ bits)) :=
  match s with
  | [] => .error .empty
  | ['+'] => .error .invalidDigit
  | '+' :: r => readDigits ⟨0, Nat.two_pow_pos bits⟩ r
  | s => readDigits ⟨0, Nat.two_pow_pos bits⟩ s

/-- The decimal numeral of a number, without leading zeros. -/
def decimal (n : Nat) : List Char := Nat.toDigits 10 n

theorem isDigit_of_mem_decimal {n : Nat} {c : Char} (h : c ∈ decimal n) : c.isDigit = true :=
  Nat.isDigit_of_mem_toDigits (by decide) (by decide) h

/-- Different numbers have different numerals. -/
theorem decimal_inj {m n : Nat} (h : decimal m = decimal n) : m = n :=
  calc m = Nat.ofDigitChars 10 (decimal m) 0 := Nat.ofDigitChars_ten_toDigits.symm
    _ = Nat.ofDigitChars 10 (decimal n) 0 := by rw [h]
    _ = n := Nat.ofDigitChars_ten_toDigits

/-- The hexadecimal numeral of a number, in lower case and without leading zeros. -/
def hexadecimal (n : Nat) : List Char := Nat.toDigits 16 n

/-- The decimal numeral of a number, filled up with zeros to at least `width` digits. -/
def padded (width n : Nat) : List Char :=
  List.replicate (width - (decimal n).length) '0' ++ decimal n

end RpkiOverlap.Text

import RpkiOverlap.Text.Numeral

/-! # IPv4 address text

An IPv4 address is a number of 32 bits.  Its text is the decimal values of its four octets,
joined by points.

* `read?` accepts exactly four octets of one to three digits, at most 255 each, without
  leading zeros.
* `print` writes that text.
-/
namespace RpkiOverlap.Address.V4

/-- The value of an octet's text. -/
def readOctet? (s : List Char) : Option Nat :=
  if s ≠ [] ∧ s.length ≤ 3 ∧ s.all Char.isDigit ∧ (s.head? = some '0' → s.length = 1)
      ∧ Nat.ofDigitChars 10 s 0 < 256 then
    some (Nat.ofDigitChars 10 s 0)
  else none

/-- The number whose octets, from the highest, are the given ones. -/
def ofOctets (a b c d : Nat) : Fin (2 ^ 32) := .ofNat _ (((a * 256 + b) * 256 + c) * 256 + d)

/-- The octets of a number, from the highest. -/
def octets (n : Nat) : List Nat := [n / 256 ^ 3 % 256, n / 256 ^ 2 % 256, n / 256 % 256, n % 256]

/-- Reads the text of an address. -/
def read? (s : List Char) : Option (Fin (2 ^ 32)) :=
  match s.splitOn '.' with
  | [a, b, c, d] => do
    let a ← readOctet? a
    let b ← readOctet? b
    let c ← readOctet? c
    let d ← readOctet? d
    return ofOctets a b c d
  | _ => none

/-- Writes the text of an address. -/
def print (n : Nat) : List Char := ['.'].intercalate ((octets n).map Text.decimal)

end RpkiOverlap.Address.V4

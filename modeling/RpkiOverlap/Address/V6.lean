import RpkiOverlap.Address.V4

/-! # IPv6 address text

An IPv6 address is a number of 128 bits, eight groups of 16.  Its text is the groups in
hexadecimal, joined by colons.  A run of zero groups may be left out once, shown as `::`,
and the last two groups may be written as an IPv4 address.

* `read?` accepts every such text: groups of one to four digits, and a `::` that stands for
  at least one group.  An IPv4 address is accepted only at the very end.
* `print` writes the canonical text: the longest run of two or more zero groups (the first of
  equally long ones) is left out, and an address whose leading groups are five zeros and
  `ffff` ends in an IPv4 address.
-/
namespace RpkiOverlap.Address.V6

/-- The value of a group's text: one to four hexadecimal digits. -/
def readGroup? (s : List Char) : Option Nat :=
  if s = [] ∨ 4 < s.length then none
  else s.foldlM (fun value c => (Text.digitValue? 16 c).map (16 * value + ·)) 0

/-- The values of groups in sequence, of which the last text may be an IPv4 address. -/
def readGroups? : List (List Char) → Option (List Nat)
  | [] => some []
  | [last] =>
    match V4.read? last with
    | some n => some [n / 65536, n % 65536]
    | none => (readGroup? last).map fun g => [g]
  | s :: rest => do
    let g ← readGroup? s
    let gs ← readGroups? rest
    return g :: gs

/-- The parts of a text before and after its first `::`. -/
def cutAtGap : List Char → Option (List Char × List Char)
  | ':' :: ':' :: r => some ([], r)
  | [] => none
  | c :: r => (cutAtGap r).map fun p => (c :: p.1, p.2)

/-- The group texts of a part next to `::`, which may be empty. -/
def groupTexts (s : List Char) : List (List Char) := if s = [] then [] else s.splitOn ':'

/-- The groups that a text denotes, if it is the text of an address. -/
def readAll? (s : List Char) : Option (List Nat) :=
  match cutAtGap s with
  | none => do
    let gs ← readGroups? (s.splitOn ':')
    if gs.length = 8 then some gs else none
  | some (front, back) => do
    let fs ← (groupTexts front).mapM readGroup?
    let bs ← readGroups? (groupTexts back)
    if fs.length + bs.length ≤ 7 then
      some (fs ++ List.replicate (8 - fs.length - bs.length) 0 ++ bs)
    else none

/-- The number whose groups, from the highest, are the given ones. -/
def ofGroups (gs : List Nat) : Fin (2 ^ 128) :=
  .ofNat _ (gs.foldl (fun value g => value * 65536 + g) 0)

/-- The eight groups of a number, from the highest. -/
def groups (n : Nat) : List Nat :=
  [n / 65536 ^ 7 % 65536, n / 65536 ^ 6 % 65536, n / 65536 ^ 5 % 65536, n / 65536 ^ 4 % 65536,
    n / 65536 ^ 3 % 65536, n / 65536 ^ 2 % 65536, n / 65536 % 65536, n % 65536]

/-- Reads the text of an address. -/
def read? (s : List Char) : Option (Fin (2 ^ 128)) := (readAll? s).map ofGroups

/-- Groups written in hexadecimal and joined by colons. -/
def printGroups (gs : List Nat) : List Char := [':'].intercalate (gs.map Text.hexadecimal)

/-- How many zeros a list starts with. -/
def leadingZeros (gs : List Nat) : Nat := (gs.takeWhile (· == 0)).length

/-- The first longest run of zeros in a list, as its position and length. -/
def longestZeros : List Nat → Nat × Nat
  | [] => (0, 0)
  | g :: gs =>
    let here := leadingZeros (g :: gs)
    let later := longestZeros gs
    if later.2 ≤ here then (0, here) else (later.1 + 1, later.2)

/-- Writes the canonical text of an address. -/
def print (n : Nat) : List Char :=
  if n / 2 ^ 32 = 0xffff then "::ffff:".toList ++ V4.print n
  else
    let gs := groups n
    let (start, count) := longestZeros gs
    if 1 < count then
      printGroups (gs.take start) ++ [':', ':'] ++ printGroups (gs.drop (start + count))
    else printGroups gs

end RpkiOverlap.Address.V6

import RpkiOverlap.Range.Basic

/-! # Aligned blocks

A block of `2 ^ k` numbers is *aligned* when it starts at a multiple of its size.  Aligned
blocks of addresses are the CIDR prefixes: the block of `2 ^ (w - l)` numbers is what
shares its first `l` bits.

* `Range.block?` is the aligned block with a given start and number of leading bits.
* `Range.blocks` cuts a range into aligned blocks, always taking the largest one that
  starts at the lower end and stays inside the range.
* `Range.prefixLength?` recognises the ranges that are one aligned block.
-/
namespace RpkiOverlap.Range
variable {w : Nat}

/-- The aligned block of the numbers that agree with `start` in their first `length` bits.
It exists when the remaining bits of `start` are zero. -/
def block? (start length : Nat) : Option (Range w) :=
  if length ≤ w ∧ start % 2 ^ (w - length) = 0 then
    of? start (start + (2 ^ (w - length) - 1))
  else none

/-- The largest `k ≤ bound` for which `2 ^ k` divides `n`. -/
def alignment : (bound n : Nat) → Nat
  | 0, _ => 0
  | bound + 1, n => if n % 2 = 0 then alignment bound (n / 2) + 1 else 0

/-- The exponent of the largest aligned block that starts at the lower end of the range and
has no more numbers than the range. -/
def firstExponent (r : Range w) : Nat := min (alignment w r.lo) r.size.log2

/-- The first aligned block of a range is no larger than the range. -/
theorem two_pow_firstExponent_le (r : Range w) : 2 ^ r.firstExponent ≤ r.size := by
  have hsize : r.size ≠ 0 := by simp [size]
  calc 2 ^ r.firstExponent
      ≤ 2 ^ r.size.log2 := Nat.pow_le_pow_right (by decide) (Nat.min_le_right ..)
    _ ≤ r.size := Nat.log2_self_le hsize

/-- The range cut into aligned blocks, in ascending order. -/
def blocks (r : Range w) : List (Range w) :=
  if h : r.lo + 2 ^ r.firstExponent ≤ r.hi then
    ⟨r.lo, r.lo + (2 ^ r.firstExponent - 1), Nat.le_add_right .., by
        have := r.hi_lt; have := Nat.two_pow_pos r.firstExponent; omega⟩ ::
      blocks ⟨r.lo + 2 ^ r.firstExponent, r.hi, h, r.hi_lt⟩
  else [r]
termination_by r.hi - r.lo
decreasing_by
  have := Nat.two_pow_pos r.firstExponent
  omega

/-- The number of leading bits that the numbers of the range share, when the range is one
aligned block. -/
def prefixLength? (r : Range w) : Option Nat :=
  match r.blocks with
  | [b] => some (w - b.size.log2)
  | _ => none

end RpkiOverlap.Range

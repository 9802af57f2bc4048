/-! # Closed ranges of a number space

Internet number resources live in spaces of `2 ^ w` consecutive numbers: AS numbers and
IPv4 addresses in the space of width 32, IPv6 addresses in the space of width 128.  A
`Range w` is a nonempty closed interval of such a space.

* The two invariants, ends in order and inside the space, are part of the type, so every
  function that builds a range proves them.
* `n ∈ r` is membership of a number, and `Range.mem_def` reads it as two comparisons.
* `Range.contains` and `Range.intersects` decide inclusion and common numbers.

Powers of natural numbers are those of core everywhere in this library, whatever other
instances are in scope.  So `2 ^ w` means the same in a module with few imports and in one
with many, and the lemmas of core apply to it as it stands.
-/
namespace RpkiOverlap

attribute [scoped instance(10000)] instPowNat
attribute [default_instance high + 1] instPowNat

/-- A nonempty closed interval `lo … hi` of the space of numbers below `2 ^ w`. -/
structure Range (w : Nat) where
  lo : Nat
  hi : Nat
  lo_le_hi : lo ≤ hi
  hi_lt : hi < 2 ^ w
  deriving DecidableEq, Repr

namespace Range
variable {w : Nat}

instance : Membership Nat (Range w) := ⟨fun r n => r.lo ≤ n ∧ n ≤ r.hi⟩

theorem mem_def {n : Nat} {r : Range w} : n ∈ r ↔ r.lo ≤ n ∧ n ≤ r.hi := Iff.rfl

instance (n : Nat) (r : Range w) : Decidable (n ∈ r) :=
  inferInstanceAs (Decidable (r.lo ≤ n ∧ n ≤ r.hi))

theorem ext_ends {r s : Range w} (hlo : r.lo = s.lo) (hhi : r.hi = s.hi) : r = s := by
  cases r; cases s; simp_all

/-- The range between two numbers; `none` when they are out of order or outside the space. -/
def of? (lo hi : Nat) : Option (Range w) :=
  if h : lo ≤ hi ∧ hi < 2 ^ w then some ⟨lo, hi, h.1, h.2⟩ else none

/-- The range of one number. -/
def single (n : Nat) (h : n < 2 ^ w) : Range w := ⟨n, n, Nat.le_refl n, h⟩

/-- The whole space. -/
def full : Range w :=
  ⟨0, 2 ^ w - 1, Nat.zero_le _, Nat.sub_lt (Nat.two_pow_pos w) Nat.one_pos⟩

/-- How many numbers the range has. -/
def size (r : Range w) : Nat := r.hi - r.lo + 1

/-- Whether every number of the second range is one of the first. -/
def contains (r s : Range w) : Bool := r.lo ≤ s.lo && s.hi ≤ r.hi

/-- Whether the two ranges have a number in common. -/
def intersects (r s : Range w) : Bool := r.lo ≤ s.hi && s.lo ≤ r.hi

/-- The numbers that two ranges have in common, if any. -/
def meet? (r s : Range w) : Option (Range w) :=
  if h : max r.lo s.lo ≤ min r.hi s.hi then
    some ⟨max r.lo s.lo, min r.hi s.hi, h, Nat.lt_of_le_of_lt (Nat.min_le_left ..) r.hi_lt⟩
  else none

/-- The order of ranges: by their lower ends, and by their upper ends where those agree. -/
def order (r s : Range w) : Ordering := (compare r.lo s.lo).then (compare r.hi s.hi)

/-- Whether a range comes no later than another. -/
def le (r s : Range w) : Bool := (r.order s).isLE

theorem le_iff {r s : Range w} : r.le s = true ↔ r.lo < s.lo ∨ r.lo = s.lo ∧ r.hi ≤ s.hi := by
  simp only [le, order, Ordering.isLE_then_iff_or, Nat.compare_eq_lt, Nat.compare_eq_eq,
    Nat.isLE_compare]

theorem lo_le_lo_of_le {r s : Range w} (h : r.le s = true) : r.lo ≤ s.lo := by
  rcases le_iff.1 h with h | h <;> omega

theorem le_trans {r s t : Range w} (hrs : r.le s = true) (hst : s.le t = true) :
    r.le t = true := by
  rw [le_iff] at *
  omega

theorem le_total (r s : Range w) : r.le s = true ∨ s.le r = true := by
  rw [le_iff, le_iff]
  omega

end Range
end RpkiOverlap

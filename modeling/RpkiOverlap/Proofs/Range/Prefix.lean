import Mathlib.Logic.Basic
import Mathlib.Tactic.ByContra
import RpkiOverlap.Range.Aligned

/-! # Recognising prefixes

A range is recognised as one aligned block exactly when it is the block with its lower end and the
recognised number of leading bits (`prefixLength?_eq_some_iff`).  The recognition asks for the
largest block at the lower end of the range: its exponent is at most that of the range's size, so
the range is one block when nothing is left above the block, and then the two have one size.

So the block of a start and a number of leading bits and the recognition of blocks are inverse to
each other (`prefixLength?_exact`).  The block exists when the start has no bit behind the leading
ones (`isSome_block?_iff`), and nothing else is recognised than what has the size and the place of
a block (`prefixLength?_eq_none_iff`).
-/
namespace RpkiOverlap.Range
variable {w : Nat}

theorem alignment_le (bound n : Nat) : alignment bound n ≤ bound := by
  induction bound generalizing n with
  | zero => exact Nat.le_refl 0
  | succ bound ih =>
    rw [alignment]
    split
    · exact Nat.succ_le_succ (ih (n / 2))
    · exact Nat.zero_le _

theorem two_pow_alignment_dvd (bound n : Nat) : 2 ^ alignment bound n ∣ n := by
  induction bound generalizing n with
  | zero => simp [alignment]
  | succ bound ih =>
    rw [alignment]
    split
    · rename_i heven
      have hn : n = n / 2 * 2 := by omega
      rw [Nat.pow_succ]
      conv => rhs; rw [hn]
      exact Nat.mul_dvd_mul_right (ih (n / 2)) 2
    · simp

/-- The alignment is the largest exponent in question. -/
theorem le_alignment {bound n k : Nat} (hk : k ≤ bound) (h : 2 ^ k ∣ n) :
    k ≤ alignment bound n := by
  induction bound generalizing n k with
  | zero => exact Nat.le_trans hk (Nat.zero_le _)
  | succ bound ih =>
    cases k with
    | zero => exact Nat.zero_le _
    | succ k =>
      rw [Nat.pow_succ, Nat.mul_comm] at h
      have heven : n % 2 = 0 := Nat.mod_eq_zero_of_dvd (Nat.dvd_trans (Nat.dvd_mul_right 2 _) h)
      rw [alignment, if_pos heven]
      exact Nat.succ_le_succ (ih (Nat.le_of_succ_le_succ hk) (Nat.dvd_div_of_mul_dvd h))

theorem firstExponent_le (r : Range w) : r.firstExponent ≤ w :=
  Nat.le_trans (Nat.min_le_left ..) (alignment_le w r.lo)

theorem two_pow_firstExponent_dvd (r : Range w) : 2 ^ r.firstExponent ∣ r.lo :=
  Nat.dvd_trans (Nat.pow_dvd_pow 2 (Nat.min_le_left ..)) (two_pow_alignment_dvd w r.lo)

theorem blocks_ne_nil (r : Range w) : r.blocks ≠ [] := by
  rw [blocks]
  split <;> simp

/-- Only a range with nothing above its first block is one block. -/
theorem prefixLength?_eq (r : Range w) :
    r.prefixLength? =
      if r.lo + 2 ^ r.firstExponent ≤ r.hi then none else some (w - r.size.log2) := by
  by_cases hrest : r.lo + 2 ^ r.firstExponent ≤ r.hi
  · obtain ⟨b, bs, hbs⟩ := List.exists_cons_of_ne_nil
      (blocks_ne_nil ⟨r.lo + 2 ^ r.firstExponent, r.hi, hrest, r.hi_lt⟩)
    rw [prefixLength?, blocks, dif_pos hrest, hbs, if_pos hrest]
  · rw [prefixLength?, blocks, dif_neg hrest, if_neg hrest]

/-- The block with a given start and number of leading bits is a range when the range begins at
that start, the start is a multiple of the block's size, and the range has this size. -/
theorem block?_eq_some_iff {r : Range w} {l : Nat} :
    block? r.lo l = some r ↔ l ≤ w ∧ 2 ^ (w - l) ∣ r.lo ∧ r.size = 2 ^ (w - l) := by
  have hpos := Nat.two_pow_pos (w - l)
  have hle := r.lo_le_hi
  have hlt := r.hi_lt
  unfold block? of? size
  constructor
  · intro h
    rw [Option.ite_none_right_eq_some, Option.dite_none_right_eq_some] at h
    obtain ⟨⟨hl, hmod⟩, _, heq⟩ := h
    have hhi := congrArg Range.hi (Option.some.inj heq)
    simp only at hhi
    exact ⟨hl, Nat.dvd_of_mod_eq_zero hmod, by omega⟩
  · rintro ⟨hl, hdvd, hsize⟩
    rw [if_pos ⟨hl, Nat.mod_eq_zero_of_dvd hdvd⟩, dif_pos (by omega)]
    exact congrArg some (ext_ends rfl (by simp only; omega))

/-- A range is recognised as a block with `l` leading bits exactly when it is that block. -/
theorem prefixLength?_eq_some_iff {r : Range w} {l : Nat} :
    r.prefixLength? = some l ↔ block? r.lo l = some r := by
  rw [prefixLength?_eq, block?_eq_some_iff, Option.ite_none_left_eq_some, Option.some.injEq]
  have hle := r.lo_le_hi
  constructor
  · rintro ⟨hrest, rfl⟩
    -- the first block is no larger than the range, and leaves nothing of it
    have hsize : r.size = 2 ^ r.firstExponent := by
      have := r.two_pow_firstExponent_le
      unfold size at *
      omega
    have hexponent : w - (w - r.size.log2) = r.firstExponent := by
      have := r.firstExponent_le
      rw [hsize, Nat.log2_two_pow]
      omega
    rw [hexponent]
    exact ⟨Nat.sub_le .., r.two_pow_firstExponent_dvd, hsize⟩
  · rintro ⟨hl, hdvd, hsize⟩
    have hlog : r.size.log2 = w - l := by rw [hsize, Nat.log2_two_pow]
    have hfirst : r.firstExponent = w - l := by
      rw [firstExponent, hlog]
      exact Nat.min_eq_right (le_alignment (Nat.sub_le ..) hdvd)
    refine ⟨?_, by omega⟩
    rw [hfirst, ← hsize, size]
    omega

/-! ## Both directions -/

/-- A power of two divides a number exactly when the lower bits of the number are zero. -/
theorem two_pow_dvd_iff_testBit {k n : Nat} : 2 ^ k ∣ n ↔ ∀ i < k, n.testBit i = false := by
  rw [Nat.dvd_iff_mod_eq_zero, Nat.eq_iff_testBit_eq]
  simp only [Nat.testBit_mod_two_pow, Nat.zero_testBit, Bool.and_eq_false_iff,
    decide_eq_false_iff_not, ← imp_iff_not_or]

/-- A block that starts inside the space lies inside the space: up to its end only bits of the
start change that are zero. -/
theorem add_two_pow_le {start k : Nat} (hk : k ≤ w) (hstart : start < 2 ^ w)
    (hzero : start % 2 ^ k = 0) : start + 2 ^ k ≤ 2 ^ w := by
  obtain ⟨m, hm⟩ := Nat.dvd_of_mod_eq_zero hzero
  obtain ⟨t, ht⟩ := Nat.pow_dvd_pow 2 hk
  have hlt : m < t := by
    rw [hm, ht] at hstart
    exact Nat.lt_of_mul_lt_mul_left hstart
  calc start + 2 ^ k = 2 ^ k * (m + 1) := by rw [hm, Nat.mul_succ]
    _ ≤ 2 ^ k * t := Nat.mul_le_mul_left _ hlt
    _ = 2 ^ w := ht.symm

/-- There is a block exactly when the number of leading bits is one of the space, and the bits of
the start behind them are zero. -/
theorem isSome_block?_iff {start l : Nat} (hstart : start < 2 ^ w) :
    (block? (w := w) start l).isSome = true ↔
      l ≤ w ∧ ∀ i < w - l, start.testBit i = false := by
  have hpos := Nat.two_pow_pos (w - l)
  rw [← two_pow_dvd_iff_testBit, Nat.dvd_iff_mod_eq_zero, block?]
  constructor
  · intro h
    by_contra hnone
    rw [if_neg hnone] at h
    cases h
  · rintro ⟨hl, hzero⟩
    have hend := add_two_pow_le (Nat.sub_le w l) hstart hzero
    rw [if_pos ⟨hl, hzero⟩, of?, dif_pos (by omega)]
    rfl

theorem lo_of_block? {start l : Nat} {r : Range w} (h : block? start l = some r) :
    r.lo = start := by
  rw [block?, Option.ite_none_right_eq_some, of?, Option.dite_none_right_eq_some] at h
  obtain ⟨-, _, heq⟩ := h
  exact congrArg Range.lo (Option.some.inj heq).symm

/-- Only a power of two that divides the lower end of the range is the size of a block. -/
theorem prefixLength?_eq_none_iff {r : Range w} :
    r.prefixLength? = none ↔ (∀ k, r.size ≠ 2 ^ k) ∨ ¬ r.size ∣ r.lo := by
  rw [← not_iff_not, ← ne_eq, Option.ne_none_iff_exists']
  constructor
  · rintro ⟨l, hl⟩ hnot
    obtain ⟨-, hdvd, hsize⟩ := block?_eq_some_iff.1 (prefixLength?_eq_some_iff.1 hl)
    rcases hnot with hpower | hplace
    · exact hpower _ hsize
    · exact hplace (hsize ▸ hdvd)
  · intro hnot
    obtain ⟨hpower, hplace⟩ := not_or.1 hnot
    obtain ⟨k, hk⟩ := not_forall_not.1 hpower
    have hdvd : 2 ^ k ∣ r.lo := hk ▸ not_not.1 hplace
    have hwidth : k ≤ w := by
      refine (Nat.pow_le_pow_iff_right (by decide : 1 < 2)).1 ?_
      have := r.lo_le_hi
      have := r.hi_lt
      rw [← hk, size]
      omega
    refine ⟨w - k, prefixLength?_eq_some_iff.2 (block?_eq_some_iff.2 ⟨Nat.sub_le .., ?_⟩)⟩
    rw [Nat.sub_sub_self hwidth]
    exact ⟨hdvd, hk⟩

/-- **Blocks and their recognition are inverse.**  For a start in the space there is a block of
`2 ^ (w - l)` numbers exactly when `l` is at most the width and the lower `w - l` bits of the start
are zero.  It has the numbers from the start on, so many as that, and is recognised with `l` leading
bits.  A range that is recognised with `l` leading bits is the block with its lower end.  A range is
not recognised exactly when its size is no power of two or does not divide its lower end. -/
theorem prefixLength?_exact (w : Nat) :
    (∀ start < 2 ^ w, ∀ l, (block? (w := w) start l).isSome = true ↔
      l ≤ w ∧ ∀ i < w - l, start.testBit i = false) ∧
    (∀ start l, ∀ r : Range w, block? start l = some r →
      r.lo = start ∧ r.size = 2 ^ (w - l) ∧
      (∀ n, n ∈ r ↔ start ≤ n ∧ n < start + 2 ^ (w - l)) ∧ r.prefixLength? = some l) ∧
    (∀ (r : Range w) l, r.prefixLength? = some l → block? r.lo l = some r) ∧
    (∀ r : Range w, r.prefixLength? = none ↔ (∀ k, r.size ≠ 2 ^ k) ∨ ¬ r.size ∣ r.lo) := by
  refine ⟨fun start hstart l => isSome_block?_iff hstart, ?_,
    fun r l => prefixLength?_eq_some_iff.1, fun r => prefixLength?_eq_none_iff⟩
  intro start l r h
  obtain rfl := lo_of_block? h
  obtain ⟨-, -, hsize⟩ := block?_eq_some_iff.1 h
  refine ⟨rfl, hsize, fun n => ?_, prefixLength?_eq_some_iff.2 h⟩
  have := r.lo_le_hi
  rw [← hsize, mem_def, size]
  omega

end RpkiOverlap.Range

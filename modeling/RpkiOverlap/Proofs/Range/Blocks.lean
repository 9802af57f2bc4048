import Mathlib.Combinatorics.Enumerative.DoubleCounting
import Mathlib.Data.Nat.ModEq
import RpkiOverlap.Proofs.Range.Canonical
import RpkiOverlap.Proofs.Range.Prefix

/-! # Minimal lists of aligned blocks

`Range.blocks` always takes the largest aligned block that begins at the lower end and stays
inside the range.  This module shows that the blocks are a split of the range into aligned blocks
of which no list is shorter (`RangeSet.IsSplit`).

* Two aligned blocks with a common number are nested (`IsAligned.mem_of_size_le`).
* So every block that is taken is maximal: it holds every aligned block of the range that has a
  number with it in common (`mem_of_mem_blocks`).  For the first block this is how it is chosen,
  and a block that reached back over the first one would not be held by it.
* The blocks of a set are those of its runs, and they are maximal in the set, because a block that
  lies in the set lies in one run (`mem_of_mem_ranges`).
* Any aligned blocks with the same numbers are at least as many: the block that has the lower end
  of a maximal one lies inside it, so it has no other's lower end (`length_blocks_le_of_covered`).

The walk ends for every range, after at most `2 * w + 1` blocks (`length_blocks_le_width`).
-/
namespace RpkiOverlap

namespace Range
variable {w : Nat}

/-! ## Aligned blocks -/

/-- A range of `2 ^ k` numbers that begins at a multiple of `2 ^ k`. -/
def IsAligned (r : Range w) : Prop := ∃ k, r.size = 2 ^ k ∧ 2 ^ k ∣ r.lo

/-- Multiples of a number are at least that number apart. -/
theorem le_of_dvd_of_lt_add {d m n : Nat} (hm : d ∣ m) (hn : d ∣ n) (h : m < n + d) : m ≤ n :=
  ((Nat.modEq_zero_iff_dvd.2 hm).trans (Nat.modEq_zero_iff_dvd.2 hn).symm).le_of_lt_add h

/-- Of two aligned blocks with a common number, the larger one holds the other. -/
theorem IsAligned.mem_of_size_le {b c : Range w} (hb : b.IsAligned) (hc : c.IsAligned)
    (hsize : b.size ≤ c.size) {n : Nat} (hnb : n ∈ b) (hnc : n ∈ c) : ∀ m ∈ b, m ∈ c := by
  obtain ⟨j, hj, hbdvd⟩ := hb
  obtain ⟨k, hk, hcdvd⟩ := hc
  rw [hj, hk] at hsize
  have hdvd : 2 ^ j ∣ 2 ^ k := Nat.pow_dvd_pow 2 ((Nat.pow_le_pow_iff_right (by decide)).1 hsize)
  have hpos := Nat.two_pow_pos j
  rw [mem_def] at hnb hnc
  unfold size at hj hk
  have hlo : c.lo ≤ b.lo := by
    refine le_of_dvd_of_lt_add (Nat.dvd_trans hdvd hcdvd) hbdvd ?_
    omega
  have hhi : b.lo + 2 ^ j ≤ c.lo + 2 ^ k := by
    refine le_of_dvd_of_lt_add (Nat.dvd_add hbdvd (Nat.dvd_refl _))
      (Nat.dvd_add (Nat.dvd_trans hdvd hcdvd) hdvd) ?_
    omega
  intro m hm
  rw [mem_def] at hm ⊢
  omega

/-! ## The first block -/

theorem lo_le_lo_add (r : Range w) : r.lo ≤ r.lo + (2 ^ r.firstExponent - 1) := Nat.le_add_right ..

/-- The largest aligned block at the lower end of a range lies in the space. -/
theorem lo_add_lt (r : Range w) : r.lo + (2 ^ r.firstExponent - 1) < 2 ^ w := by
  have := r.two_pow_firstExponent_le
  have := r.lo_le_hi
  have := r.hi_lt
  unfold size at *
  omega

/-- The largest aligned block at the lower end of a range. -/
def firstBlock (r : Range w) : Range w :=
  ⟨r.lo, r.lo + (2 ^ r.firstExponent - 1), r.lo_le_lo_add, r.lo_add_lt⟩

theorem size_firstBlock (r : Range w) : r.firstBlock.size = 2 ^ r.firstExponent := by
  have := Nat.two_pow_pos r.firstExponent
  simp only [firstBlock, size]
  omega

theorem isAligned_firstBlock (r : Range w) : r.firstBlock.IsAligned :=
  ⟨r.firstExponent, r.size_firstBlock, r.two_pow_firstExponent_dvd⟩

theorem mem_firstBlock {r : Range w} {n : Nat} :
    n ∈ r.firstBlock ↔ r.lo ≤ n ∧ n < r.lo + 2 ^ r.firstExponent := by
  have := Nat.two_pow_pos r.firstExponent
  simp only [firstBlock, mem_def]
  omega

/-- What a range has above its first block. -/
def aboveFirst (r : Range w) (h : r.lo + 2 ^ r.firstExponent ≤ r.hi) : Range w :=
  ⟨r.lo + 2 ^ r.firstExponent, r.hi, h, r.hi_lt⟩

theorem mem_aboveFirst {r : Range w} {h : r.lo + 2 ^ r.firstExponent ≤ r.hi} {n : Nat} :
    n ∈ r.aboveFirst h ↔ r.lo + 2 ^ r.firstExponent ≤ n ∧ n ≤ r.hi := Iff.rfl

theorem blocks_of_le {r : Range w} (h : r.lo + 2 ^ r.firstExponent ≤ r.hi) :
    r.blocks = r.firstBlock :: (r.aboveFirst h).blocks := by
  rw [blocks, dif_pos h]
  rfl

theorem blocks_of_not_le {r : Range w} (h : ¬ r.lo + 2 ^ r.firstExponent ≤ r.hi) :
    r.blocks = [r.firstBlock] := by
  have hr : r.firstBlock = r := by
    have := r.two_pow_firstExponent_le
    have := r.lo_le_hi
    refine ext_ends rfl ?_
    simp only [firstBlock]
    unfold size at *
    omega
  rw [blocks, dif_neg h, hr]

/-- The numbers of a range are those of its first block and those above. -/
theorem mem_iff_of_le {r : Range w} (h : r.lo + 2 ^ r.firstExponent ≤ r.hi) {n : Nat} :
    n ∈ r ↔ n ∈ r.firstBlock ∨ n ∈ r.aboveFirst h := by
  have hpos := Nat.two_pow_pos r.firstExponent
  rw [mem_firstBlock, mem_aboveFirst, mem_def]
  omega

theorem mem_iff_of_not_le {r : Range w} (h : ¬ r.lo + 2 ^ r.firstExponent ≤ r.hi) {n : Nat} :
    n ∈ r ↔ n ∈ r.firstBlock := by
  have := r.two_pow_firstExponent_le
  have := r.lo_le_hi
  rw [mem_firstBlock, mem_def]
  unfold size at *
  omega

/-- An aligned block at the lower end of a range is no larger than the first block. -/
theorem size_le_size_firstBlock {r c : Range w} (hc : c.IsAligned) (hlo : c.lo = r.lo)
    (hhi : c.hi ≤ r.hi) : c.size ≤ r.firstBlock.size := by
  obtain ⟨k, hk, hdvd⟩ := hc
  have hsize : 2 ^ k ≤ r.size := by
    rw [← hk]
    unfold size
    omega
  have hwidth : k ≤ w := by
    refine (Nat.pow_le_pow_iff_right (by decide : 1 < 2)).1 ?_
    have := c.hi_lt
    rw [← hk]
    unfold size
    omega
  have hlog : k ≤ r.size.log2 := (Nat.le_log2 (by simp [size])).2 hsize
  rw [hlo] at hdvd
  rw [hk, size_firstBlock]
  exact Nat.pow_le_pow_right (by decide) (Nat.le_min.2 ⟨le_alignment hwidth hdvd, hlog⟩)

/-- The first block holds every aligned block of the range with which it has a number in common. -/
theorem mem_firstBlock_of_mem {r c : Range w} (hc : c.IsAligned) (hsub : ∀ m ∈ c, m ∈ r) {n : Nat}
    (hnc : n ∈ c) (hnb : n ∈ r.firstBlock) : ∀ m ∈ c, m ∈ r.firstBlock := by
  by_cases hle : c.size ≤ r.firstBlock.size
  · exact hc.mem_of_size_le r.isAligned_firstBlock hle hnc hnb
  · -- otherwise it would hold the first block, and begin where the range begins
    have hhold := r.isAligned_firstBlock.mem_of_size_le hc (Nat.le_of_not_le hle) hnb hnc
    have hfirst : r.lo ∈ c := hhold r.lo (mem_firstBlock.2 ⟨Nat.le_refl _, by simp⟩)
    have hlower := hsub c.lo ⟨Nat.le_refl _, c.lo_le_hi⟩
    have hupper := hsub c.hi ⟨c.lo_le_hi, Nat.le_refl _⟩
    rw [mem_def] at hfirst hlower hupper
    exact absurd (size_le_size_firstBlock hc (by omega) hupper.2) hle

/-! ## The blocks of a range -/

theorem isAligned_of_mem_blocks {r b : Range w} (h : b ∈ r.blocks) : b.IsAligned := by
  induction r using blocks.induct with
  | case1 r hrest ih =>
    rw [blocks_of_le hrest] at h
    rcases List.mem_cons.1 h with rfl | h
    · exact r.isAligned_firstBlock
    · exact ih h
  | case2 r hrest =>
    rw [blocks_of_not_le hrest, List.mem_singleton] at h
    rw [h]
    exact r.isAligned_firstBlock

/-- The blocks of a range have its numbers. -/
theorem covered_blocks {r : Range w} {n : Nat} : RangeSet.Covered n r.blocks ↔ n ∈ r := by
  induction r using blocks.induct with
  | case1 r hrest ih =>
    rw [blocks_of_le hrest, RangeSet.covered_cons, mem_iff_of_le hrest]
    exact or_congr_right ih
  | case2 r hrest =>
    rw [blocks_of_not_le hrest, RangeSet.covered_cons, mem_iff_of_not_le hrest]
    simp

theorem mem_of_mem_block {r b : Range w} (h : b ∈ r.blocks) {n : Nat} (hn : n ∈ b) : n ∈ r :=
  covered_blocks.1 ⟨b, h, hn⟩

theorem pairwise_blocks (r : Range w) : r.blocks.Pairwise fun b c => b.hi < c.lo := by
  induction r using blocks.induct with
  | case1 r hrest ih =>
    rw [blocks_of_le hrest]
    refine List.pairwise_cons.2 ⟨fun c hc => ?_, ih⟩
    have hlo := mem_aboveFirst.1 (mem_of_mem_block hc ⟨Nat.le_refl _, c.lo_le_hi⟩)
    have hpos := Nat.two_pow_pos r.firstExponent
    simp only [firstBlock]
    omega
  | case2 r hrest =>
    rw [blocks_of_not_le hrest]
    exact List.pairwise_singleton ..

/-- Each block holds every aligned block of the range with which it has a number in common. -/
theorem mem_of_mem_blocks {r b c : Range w} (hb : b ∈ r.blocks) (hc : c.IsAligned)
    (hsub : ∀ m ∈ c, m ∈ r) {n : Nat} (hnc : n ∈ c) (hnb : n ∈ b) : ∀ m ∈ c, m ∈ b := by
  induction r using blocks.induct with
  | case1 r hrest ih =>
    rw [blocks_of_le hrest] at hb
    rcases List.mem_cons.1 hb with rfl | hb
    · exact mem_firstBlock_of_mem hc hsub hnc hnb
    · refine ih hb fun m hm => ((mem_iff_of_le hrest).1 (hsub m hm)).resolve_left fun hfirst => ?_
      -- it would lie in the first block as a whole, but has a number above
      have hin := mem_firstBlock.1 (mem_firstBlock_of_mem hc hsub hm hfirst n hnc)
      have habove := mem_aboveFirst.1 (mem_of_mem_block hb hnb)
      omega
  | case2 r hrest =>
    rw [blocks_of_not_le hrest, List.mem_singleton] at hb
    rw [hb] at hnb ⊢
    exact mem_firstBlock_of_mem hc hsub hnc hnb

/-! ## The number of blocks -/

theorem log2_size_le (r : Range w) : r.size.log2 ≤ w := by
  have := r.lo_le_hi
  have := r.hi_lt
  have hsize : r.size ≤ 2 ^ w := by
    unfold size
    omega
  exact (Nat.pow_le_pow_iff_right (by decide : 1 < 2)).1
    (Nat.le_trans (Nat.log2_self_le (by simp [size])) hsize)

/-- A number is an odd multiple of the largest power that divides it, so one power more makes an
even multiple. -/
theorem alignment_lt_alignment_add {n : Nat} (h : alignment w n < w) :
    alignment w n < alignment w (n + 2 ^ alignment w n) := by
  obtain ⟨m, hm⟩ := two_pow_alignment_dvd w n
  have hodd : m % 2 = 1 := by
    by_contra heven
    have hm2 : m = 2 * (m / 2) := by omega
    have hdvd : 2 ^ (alignment w n + 1) ∣ n := by
      refine ⟨m / 2, ?_⟩
      rw [Nat.pow_succ, Nat.mul_assoc, ← hm2]
      exact hm
    exact absurd (le_alignment h hdvd) (Nat.not_succ_le_self _)
  refine le_alignment h ⟨(m + 1) / 2, ?_⟩
  have hm2 : m + 1 = 2 * ((m + 1) / 2) := by omega
  rw [Nat.pow_succ, Nat.mul_assoc, ← hm2, Nat.mul_add, ← hm, Nat.mul_one]

/-- Above a block that is as large as the alignment of the lower end admits, the alignment is
better.  Above one that is as large as the size admits, less than such a block is left. -/
theorem measure_aboveFirst_lt {r : Range w} (h : r.lo + 2 ^ r.firstExponent ≤ r.hi) :
    2 * (r.aboveFirst h).size.log2 - (r.aboveFirst h).firstExponent <
      2 * r.size.log2 - r.firstExponent := by
  have hne : (r.aboveFirst h).size ≠ 0 := by simp [size]
  have hpos := Nat.two_pow_pos r.firstExponent
  have hsum : (r.aboveFirst h).size + 2 ^ r.firstExponent = r.size := by
    simp only [aboveFirst, size]
    omega
  have hlog : (r.aboveFirst h).size.log2 ≤ r.size.log2 := by
    have hself := Nat.log2_self_le hne
    exact (Nat.le_log2 (by omega)).2 (by omega)
  have hfirst : (r.aboveFirst h).firstExponent =
    min (alignment w (r.lo + 2 ^ r.firstExponent)) (r.aboveFirst h).size.log2 := rfl
  by_cases hcase : alignment w r.lo < r.size.log2
  · have hexponent : r.firstExponent = alignment w r.lo := Nat.min_eq_left (Nat.le_of_lt hcase)
    have hlt : alignment w r.lo < w := Nat.lt_of_lt_of_le hcase r.log2_size_le
    have hbetter : alignment w r.lo < alignment w (r.lo + 2 ^ r.firstExponent) := by
      rw [hexponent]
      exact alignment_lt_alignment_add hlt
    omega
  · have hexponent : r.firstExponent = r.size.log2 := Nat.min_eq_right (Nat.le_of_not_lt hcase)
    have hless : (r.aboveFirst h).size.log2 < r.size.log2 := by
      refine (Nat.log2_lt hne).2 ?_
      have := Nat.lt_log2_self (n := r.size)
      rw [hexponent] at hsum
      rw [Nat.pow_succ] at this
      omega
    have haligned : r.size.log2 ≤ alignment w (r.lo + 2 ^ r.firstExponent) := by
      refine le_alignment r.log2_size_le ?_
      rw [← hexponent]
      exact Nat.dvd_add r.two_pow_firstExponent_dvd (Nat.dvd_refl _)
    omega

theorem length_blocks_le (r : Range w) :
    r.blocks.length ≤ 2 * r.size.log2 - r.firstExponent + 1 := by
  induction r using blocks.induct with
  | case1 r hrest ih =>
    have hlt := measure_aboveFirst_lt hrest
    have hih : (r.aboveFirst hrest).blocks.length ≤ _ := ih
    rw [blocks_of_le hrest, List.length_cons]
    simp only [aboveFirst] at *
    omega
  | case2 r hrest =>
    rw [blocks_of_not_le hrest]
    simp

/-- A range of numbers of `w` bits has at most `2 * w + 1` blocks. -/
theorem length_blocks_le_width (r : Range w) : r.blocks.length ≤ 2 * w + 1 := by
  have := r.length_blocks_le
  have := r.log2_size_le
  omega

end Range

namespace RangeSet
variable {w : Nat}

/-! ## The blocks of a set -/

/-- The aligned blocks of all runs. -/
def blocks (s : RangeSet w) : List (Range w) := s.ranges.flatMap Range.blocks

theorem mem_blocks {s : RangeSet w} {b : Range w} :
    b ∈ s.blocks ↔ ∃ r ∈ s.ranges, b ∈ r.blocks := List.mem_flatMap

/-- The blocks of a set have its numbers. -/
theorem covered_set_blocks {s : RangeSet w} {n : Nat} : Covered n s.blocks ↔ n ∈ s := by
  constructor
  · rintro ⟨b, hb, hn⟩
    obtain ⟨r, hr, hb⟩ := mem_blocks.1 hb
    exact ⟨r, hr, Range.mem_of_mem_block hb hn⟩
  · rintro ⟨r, hr, hn⟩
    obtain ⟨b, hb, hn⟩ := Range.covered_blocks.2 hn
    exact ⟨b, mem_blocks.2 ⟨r, hr, hb⟩, hn⟩

theorem pairwise_set_blocks (s : RangeSet w) : s.blocks.Pairwise fun b c => b.hi < c.lo := by
  refine List.pairwise_flatMap.2 ⟨fun r _ => r.pairwise_blocks, s.separated.imp ?_⟩
  intro r t hrt b hb c hc
  have hhi := Range.mem_of_mem_block hb ⟨b.lo_le_hi, Nat.le_refl _⟩
  have hlo := Range.mem_of_mem_block hc ⟨Nat.le_refl _, c.lo_le_hi⟩
  simp only [Range.Before, Range.mem_def] at *
  omega

/-- A range of numbers of the set lies in one run: the numbers next to a run are not in the set. -/
theorem mem_of_mem_ranges {s : RangeSet w} {r c : Range w} (hr : r ∈ s.ranges)
    (hsub : ∀ m ∈ c, m ∈ s) {n : Nat} (hnc : n ∈ c) (hnr : n ∈ r) : ∀ m ∈ c, m ∈ r := by
  have hrun := isRun_of_mem hr
  rw [Range.mem_def] at hnc hnr
  have hhi : c.hi ≤ r.hi := by
    by_contra hlt
    refine hrun.above (hsub (r.hi + 1) ?_)
    rw [Range.mem_def]
    omega
  have hlo : r.lo ≤ c.lo := by
    by_contra hlt
    refine hrun.below (r.lo - 1) (by omega) (hsub (r.lo - 1) ?_)
    rw [Range.mem_def]
    omega
  intro m hm
  rw [Range.mem_def] at hm ⊢
  omega

/-- Blocks of a set with a common number are the same. -/
theorem eq_of_mem_blocks {s : RangeSet w} {b c : Range w} (hb : b ∈ s.blocks) (hc : c ∈ s.blocks)
    {n : Nat} (hnb : n ∈ b) (hnc : n ∈ c) : b = c := by
  by_contra hne
  have hapart : s.blocks.Pairwise fun b c => ∀ n, n ∈ b → n ∉ c :=
    s.pairwise_set_blocks.imp fun {b c} hlt n hnb hnc => by
      rw [Range.mem_def] at hnb hnc
      omega
  have hsymm : Std.Symm fun b c : Range w => ∀ n, n ∈ b → n ∉ c :=
    ⟨fun _ _ h n hnc hnb => h n hnb hnc⟩
  exact hapart.forall hb hc hne n hnb hnc

theorem nodup_blocks (s : RangeSet w) : s.blocks.Nodup :=
  s.pairwise_set_blocks.imp fun {b c} hlt heq => by
    have := c.lo_le_hi
    rw [heq] at hlt
    omega

/-- Aligned blocks with the numbers of a set are at least as many as its blocks. -/
theorem length_blocks_le_of_covered {s : RangeSet w} {cs : List (Range w)}
    (haligned : ∀ c ∈ cs, c.IsAligned) (hcovered : ∀ n, Covered n cs ↔ n ∈ s) :
    s.blocks.length ≤ cs.length := by
  have hlo : ∀ b : Range w, b.lo ∈ b := fun b => ⟨Nat.le_refl _, b.lo_le_hi⟩
  have hsome : ∀ b ∈ s.blocks.toFinset, ∃ c, c ∈ cs.toFinset ∧ b.lo ∈ c := by
    intro b hb
    have hmem : b.lo ∈ s := covered_set_blocks.1 ⟨b, List.mem_toFinset.1 hb, hlo b⟩
    obtain ⟨c, hc, hin⟩ := (hcovered b.lo).2 hmem
    exact ⟨c, List.mem_toFinset.2 hc, hin⟩
  -- a block of the other list has the lower end of one block at most
  have hone : ∀ c ∈ cs.toFinset,
      ({b | b ∈ s.blocks.toFinset ∧ b.lo ∈ c} : Set (Range w)).Subsingleton := by
    rintro c hc b ⟨hb, hin⟩ b' ⟨hb', hin'⟩
    rw [List.mem_toFinset] at hc hb hb'
    obtain ⟨r, hr, hbr⟩ := mem_blocks.1 hb
    have hsub : ∀ m ∈ c, m ∈ s := fun m hm => (hcovered m).1 ⟨c, hc, hm⟩
    have hrun := mem_of_mem_ranges hr hsub hin (Range.mem_of_mem_block hbr (hlo b))
    have hheld := Range.mem_of_mem_blocks hbr (haligned c hc) hrun hin (hlo b)
    exact eq_of_mem_blocks hb hb' (hheld b'.lo hin') (hlo b')
  calc s.blocks.length
      = s.blocks.toFinset.card := (List.toFinset_card_of_nodup s.nodup_blocks).symm
    _ ≤ cs.toFinset.card := Finset.card_le_card_of_forall_subsingleton _ hsome hone
    _ ≤ cs.length := cs.toFinset_card_le

/-! ## Splits -/

/-- A split of some numbers into aligned blocks, in ascending order, with as few blocks as there
can be. -/
structure IsSplit (bs : List (Range w)) (p : Nat → Prop) : Prop where
  aligned : ∀ b ∈ bs, b.IsAligned
  ascending : bs.Pairwise fun b c => b.hi < c.lo
  covered : ∀ n, Covered n bs ↔ p n
  minimal : ∀ cs : List (Range w), (∀ c ∈ cs, c.IsAligned) → (∀ n, Covered n cs ↔ p n) →
    bs.length ≤ cs.length

theorem isSplit_blocks (s : RangeSet w) : IsSplit s.blocks (· ∈ s) where
  aligned b hb := by
    obtain ⟨r, _, hb⟩ := mem_blocks.1 hb
    exact Range.isAligned_of_mem_blocks hb
  ascending := s.pairwise_set_blocks
  covered _ := covered_set_blocks
  minimal _ := length_blocks_le_of_covered

/-- A range is the set of its numbers. -/
theorem isSplit_range_blocks (r : Range w) : IsSplit r.blocks (· ∈ r) := by
  have hsplit := isSplit_blocks ⟨[r], List.pairwise_singleton ..⟩
  have hblocks : blocks ⟨[r], List.pairwise_singleton ..⟩ = r.blocks := List.flatMap_singleton ..
  have hmem : ∀ n, n ∈ (⟨[r], List.pairwise_singleton ..⟩ : RangeSet w) ↔ n ∈ r := by
    simp [mem_def]
  rw [hblocks] at hsplit
  simpa only [hmem] using hsplit

end RangeSet
end RpkiOverlap

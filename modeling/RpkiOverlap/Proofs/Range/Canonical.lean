import Mathlib.Data.Set.Card
import RpkiOverlap.Proofs.Range.Membership

/-! # The canonical form of range sets

However a range set comes about, its list of ranges is the one list of its maximal runs.

* A `Construction` is a way to come by a range set: from ranges in any order, with repetitions,
  overlaps and adjacency, or by operations on sets that have been constructed before.
* `Construction.runs` is what the sweeps alone make of it.  They carry no proof of order, and
  those of intersection and difference join nothing; still every list that they make is in
  canonical form (`canonical_runs`), and is the list of the constructed set (`ranges_set`).
* Every range of a set is a maximal run (`isRun_of_mem`) and every maximal run is one of the ranges
  (`exists_of_isRun`), so `size` counts the maximal runs (`size_eq_ncard`).
* Equality is that of the numbers (`eq_iff_mem`), so order and repetitions of the ranges that a set
  is made of do not matter (`ofList_eq_iff`).
-/
namespace RpkiOverlap.RangeSet
variable {w : Nat}

/-! ## Canonical lists -/

/-- Ranges in canonical form. -/
structure Canonical (rs : List (Range w)) : Prop where
  /-- The ends of each range are in order, and inside the space. -/
  inside : ∀ r ∈ rs, r.lo ≤ r.hi ∧ r.hi < 2 ^ w
  /-- The ranges ascend strictly. -/
  ascending : ∀ i (h : i + 1 < rs.length), rs[i].lo < rs[i + 1].lo ∧ rs[i].hi < rs[i + 1].hi
  /-- Between neighbours is at least one number of neither.  The number above a range that has a
  neighbour is still inside the space. -/
  gap : ∀ i (h : i + 1 < rs.length), rs[i].hi + 1 < rs[i + 1].lo ∧ rs[i].hi + 1 < 2 ^ w

/-- Separated ranges are in canonical form. -/
theorem canonical_of_pairwise {rs : List (Range w)} (h : rs.Pairwise Range.Before) :
    Canonical rs := by
  have hgap : ∀ i (hi : i + 1 < rs.length), rs[i].hi + 1 < rs[i + 1].lo := fun i hi =>
    List.pairwise_iff_getElem.1 h i (i + 1) (by omega) hi (Nat.lt_succ_self i)
  refine ⟨fun r _ => ⟨r.lo_le_hi, r.hi_lt⟩, fun i hi => ?_, fun i hi => ⟨hgap i hi, ?_⟩⟩
  · have := hgap i hi
    have := rs[i].lo_le_hi
    have := rs[i + 1].lo_le_hi
    omega
  · have := hgap i hi
    have := rs[i + 1].lo_le_hi
    have := rs[i + 1].hi_lt
    omega

/-! ## Constructions -/

/-- A way to come by a range set. -/
inductive Construction (w : Nat) where
  | ofList (rs : List (Range w))
  | union (a b : Construction w)
  | inter (a b : Construction w)
  | diff (a b : Construction w)
  | symmDiff (a b : Construction w)

namespace Construction

/-- The set that is constructed. -/
def set : Construction w → RangeSet w
  | ofList rs => .ofList rs
  | union a b => a.set.union b.set
  | inter a b => a.set.inter b.set
  | diff a b => a.set.diff b.set
  | symmDiff a b => a.set.symmDiff b.set

/-- The list of ranges that the sweeps make. -/
def runs : Construction w → List (Range w)
  | ofList rs => coalesce (rs.mergeSort Range.le)
  | union a b => coalesce ((a.runs ++ b.runs).mergeSort Range.le)
  | inter a b => interList a.runs b.runs
  | diff a b => diffList a.runs b.runs
  | symmDiff a b =>
    coalesce ((diffList a.runs b.runs ++ diffList b.runs a.runs).mergeSort Range.le)

theorem ranges_set (c : Construction w) : c.set.ranges = c.runs := by
  induction c with
  | ofList rs => rfl
  | union a b iha ihb => simp only [set, runs, RangeSet.union, RangeSet.ofList, iha, ihb]
  | inter a b iha ihb => simp only [set, runs, RangeSet.inter, iha, ihb]
  | diff a b iha ihb => simp only [set, runs, RangeSet.diff, iha, ihb]
  | symmDiff a b iha ihb =>
    simp only [set, runs, RangeSet.symmDiff, RangeSet.union, RangeSet.ofList, RangeSet.diff, iha,
      ihb]

/-- Every sweep makes separated ranges of separated ranges.  Sorting and joining make them of any
ranges. -/
theorem pairwise_runs (c : Construction w) : c.runs.Pairwise Range.Before := by
  induction c with
  | ofList rs => exact pairwise_coalesce (pairwise_mergeSort_le rs)
  | union a b _ _ => exact pairwise_coalesce (pairwise_mergeSort_le _)
  | inter a b iha ihb => exact pairwise_interList iha ihb
  | diff a b iha ihb => exact pairwise_diffList iha ihb
  | symmDiff a b _ _ => exact pairwise_coalesce (pairwise_mergeSort_le _)

theorem canonical_runs (c : Construction w) : Canonical c.runs :=
  canonical_of_pairwise c.pairwise_runs

end Construction

/-! ## Maximal runs -/

/-- The numbers from `lo` to `hi` belong to the set, and the numbers next to them do not. -/
structure IsRun (s : RangeSet w) (lo hi : Nat) : Prop where
  ordered : lo ≤ hi
  mem : ∀ n, lo ≤ n → n ≤ hi → n ∈ s
  above : hi + 1 ∉ s
  below : ∀ n, n + 1 = lo → n ∉ s

/-- Two ranges of a set are the same, or lie apart. -/
theorem eq_or_before {s : RangeSet w} {r t : Range w} (hr : r ∈ s.ranges) (ht : t ∈ s.ranges) :
    r = t ∨ r.Before t ∨ t.Before r := by
  obtain ⟨i, hi, rfl⟩ := List.getElem_of_mem hr
  obtain ⟨j, hj, rfl⟩ := List.getElem_of_mem ht
  have hsep := List.pairwise_iff_getElem.1 s.separated
  rcases Nat.lt_trichotomy i j with hij | rfl | hij
  · exact .inr (.inl (hsep i j hi hj hij))
  · exact .inl rfl
  · exact .inr (.inr (hsep j i hj hi hij))

/-- A range of a set is a maximal run: a number next to it would lie in a range that is neither
the same nor apart. -/
theorem isRun_of_mem {s : RangeSet w} {r : Range w} (hr : r ∈ s.ranges) : s.IsRun r.lo r.hi where
  ordered := r.lo_le_hi
  mem n hlo hhi := ⟨r, hr, hlo, hhi⟩
  above := by
    rintro ⟨t, ht, hlo, hhi⟩
    rcases eq_or_before hr ht with rfl | h | h
    · omega
    · simp only [Range.Before] at h
      omega
    · have := r.lo_le_hi
      simp only [Range.Before] at h
      omega
  below n hn := by
    rintro ⟨t, ht, hlo, hhi⟩
    rcases eq_or_before hr ht with rfl | h | h
    · omega
    · have := r.lo_le_hi
      simp only [Range.Before] at h
      omega
    · simp only [Range.Before] at h
      omega

/-- A maximal run begins and ends where the range with its first number does. -/
theorem exists_of_isRun {s : RangeSet w} {lo hi : Nat} (h : s.IsRun lo hi) :
    ∃ r ∈ s.ranges, r.lo = lo ∧ r.hi = hi := by
  obtain ⟨r, hr, hlo, hhi⟩ := h.mem lo (Nat.le_refl lo) h.ordered
  have hrun := isRun_of_mem hr
  refine ⟨r, hr, Nat.le_antisymm hlo ?_, Nat.le_antisymm ?_ ?_⟩
  · by_contra hlt
    exact h.below (lo - 1) (by omega) (hrun.mem (lo - 1) (by omega) (by omega))
  · by_contra hlt
    have := h.ordered
    exact h.above (hrun.mem (hi + 1) (by omega) (by omega))
  · by_contra hlt
    exact hrun.above (h.mem (r.hi + 1) (by omega) (by omega))

/-- The size of a set is the number of its maximal runs. -/
theorem size_eq_ncard (s : RangeSet w) : s.size = {p : Nat × Nat | s.IsRun p.1 p.2}.ncard := by
  have hnodup : (s.ranges.map fun r => (r.lo, r.hi)).Nodup := by
    refine List.Pairwise.map _ (fun r t h => ?_) s.separated
    have := h.hi_lt_hi
    simp only [ne_eq, Prod.mk.injEq, not_and]
    omega
  have hruns : {p : Nat × Nat | s.IsRun p.1 p.2} =
      (s.ranges.map fun r => (r.lo, r.hi)).toFinset := by
    ext ⟨lo, hi⟩
    simp only [Set.mem_ofPred_eq, List.coe_toFinset, List.mem_map, Prod.mk.injEq]
    constructor
    · exact exists_of_isRun
    · rintro ⟨r, hr, rfl, rfl⟩
      exact isRun_of_mem hr
  rw [hruns, Set.ncard_coe_finset, List.toFinset_card_of_nodup hnodup, List.length_map, size]

/-! ## Equality -/

theorem eq_iff_mem {a b : RangeSet w} : a = b ↔ ∀ n, n ∈ a ↔ n ∈ b :=
  ⟨fun h _ => h ▸ Iff.rfl, ext_mem⟩

/-- Ranges make the same set exactly when they cover the same numbers. -/
theorem ofList_eq_iff {rs ss : List (Range w)} :
    ofList rs = ofList ss ↔ ∀ n, Covered n rs ↔ Covered n ss := by
  simp only [eq_iff_mem, mem_ofList]

/-- The order of the ranges that make a set and their repetition do not matter. -/
theorem ofList_congr {rs ss : List (Range w)} (h : ∀ r, r ∈ rs ↔ r ∈ ss) :
    ofList rs = ofList ss :=
  ofList_eq_iff.2 fun n => by simp only [Covered, h]

/-- The ranges of a set make the set again. -/
theorem ofList_ranges (s : RangeSet w) : ofList s.ranges = s :=
  ext_mem fun _ => mem_ofList

theorem ofList_nil : (ofList [] : RangeSet w) = empty := ofList_ranges empty

end RpkiOverlap.RangeSet

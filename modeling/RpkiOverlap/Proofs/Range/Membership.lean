import Mathlib.Logic.Basic
import Mathlib.Tactic.ByContra
import Mathlib.Tactic.Tauto
import RpkiOverlap.Range.Set

/-! # The numbers of range sets

Every operation on range sets is a sweep over lists of ranges.  This module says what each of
them does to the numbers, for ranges in any position: sharing ends, nested, adjacent, or at
the edges of the space.

* A list of ranges *covers* the numbers of its members (`Covered`), and `n ∈ s` is coverage by
  the runs of `s`.
* The sweeps have one lemma each: `covered_coalesce`, `covered_interList`, `covered_cut` and
  `covered_diffList`.  Coverage never needs the gaps between runs, only that they ascend.
* The operations follow: `mem_union`, `mem_inter`, `mem_diff`, `mem_symmDiff`, `covers_iff` and
  `intersects_iff`.
* Sets with the same numbers are equal (`ext_mem`), because there is only one way to write a set
  as its maximal runs.
-/
namespace RpkiOverlap.RangeSet
variable {w : Nat}

/-! ## Coverage by a list of ranges -/

/-- A number lies in some range of a list. -/
def Covered (n : Nat) (rs : List (Range w)) : Prop := ∃ r ∈ rs, n ∈ r

theorem mem_iff_covered {n : Nat} {s : RangeSet w} : n ∈ s ↔ Covered n s.ranges := Iff.rfl

@[simp] theorem covered_nil {n : Nat} : ¬ Covered n ([] : List (Range w)) := by
  simp [Covered]

@[simp] theorem covered_cons {n : Nat} {r : Range w} {rs : List (Range w)} :
    Covered n (r :: rs) ↔ n ∈ r ∨ Covered n rs := by
  simp [Covered]

@[simp] theorem covered_append {n : Nat} {rs ss : List (Range w)} :
    Covered n (rs ++ ss) ↔ Covered n rs ∨ Covered n ss := by
  simp only [Covered, List.mem_append, or_and_right, exists_or]

/-- A list of ranges that all begin above a number covers only numbers above it. -/
theorem lt_of_covered {m n : Nat} {rs : List (Range w)} (hrs : ∀ r ∈ rs, m < r.lo)
    (h : Covered n rs) : m < n := by
  obtain ⟨r, hr, hlo, _⟩ := h
  exact Nat.lt_of_lt_of_le (hrs r hr) hlo

/-- What follows a range in a separated list covers only numbers above it. -/
theorem lt_of_covered_tail {n : Nat} {r : Range w} {rs : List (Range w)}
    (hrs : (r :: rs).Pairwise Range.Before) (h : Covered n rs) : r.hi + 1 < n :=
  lt_of_covered (List.pairwise_cons.1 hrs).1 h

/-- A list covers the lower end of its first range. -/
theorem covered_lo (r : Range w) (rs : List (Range w)) : Covered r.lo (r :: rs) :=
  covered_cons.2 (.inl ⟨Nat.le_refl _, r.lo_le_hi⟩)

/-- Only the empty list covers nothing. -/
theorem exists_covered_iff {rs : List (Range w)} : (∃ n, Covered n rs) ↔ rs ≠ [] := by
  constructor
  · rintro ⟨n, h⟩ rfl
    exact covered_nil h
  · intro h
    obtain ⟨r, rs, rfl⟩ := List.exists_cons_of_ne_nil h
    exact ⟨r.lo, covered_lo r rs⟩

/-! ## Joining -/

/-- Joining neighbours changes no number.  The lower ends have to ascend: the joined range
begins where the first of the two begins. -/
theorem covered_coalesce {n : Nat} {rs : List (Range w)}
    (hrs : rs.Pairwise fun r s => r.lo ≤ s.lo) : Covered n (coalesce rs) ↔ Covered n rs := by
  fun_induction coalesce rs with
  | case1 => rfl
  | case2 r => rfl
  | case3 r s rest htouch ih =>
    obtain ⟨hr, hsrest⟩ := List.pairwise_cons.1 hrs
    obtain ⟨hs, hrest⟩ := List.pairwise_cons.1 hsrest
    have hrs := hr s (by simp)
    rw [ih (List.pairwise_cons.2 ⟨fun t ht => hr t (by simp [ht]), hrest⟩)]
    simp only [covered_cons, ← or_assoc]
    refine or_congr_left ?_
    simp only [Range.mem_def]
    omega
  | case4 r s rest hgap ih =>
    rw [covered_cons, covered_cons, ih (List.pairwise_cons.1 hrs).2]

theorem mem_ofList {n : Nat} {rs : List (Range w)} : n ∈ ofList rs ↔ Covered n rs := by
  rw [mem_iff_covered, ofList, covered_coalesce (pairwise_mergeSort_le rs)]
  simp only [Covered, List.mem_mergeSort]

theorem mem_union {n : Nat} {a b : RangeSet w} : n ∈ a.union b ↔ n ∈ a ∨ n ∈ b := by
  rw [union, mem_ofList, covered_append]
  rfl

/-! ## Intersection -/

theorem covered_meet? {n : Nat} {r s : Range w} :
    Covered n (r.meet? s).toList ↔ n ∈ r ∧ n ∈ s := by
  unfold Range.meet?
  split
  · simp only [Option.toList_some, covered_cons, covered_nil, or_false, Range.mem_def]
    omega
  · simp only [Option.toList_none, covered_nil, Range.mem_def, false_iff]
    omega

/-- The sweep finds all common numbers.  The range left behind ends first, so the other list
has nothing more in common with it. -/
theorem covered_interList {n : Nat} {rs ss : List (Range w)} (hr : rs.Pairwise Range.Before)
    (hs : ss.Pairwise Range.Before) :
    Covered n (interList rs ss) ↔ Covered n rs ∧ Covered n ss := by
  fun_induction interList rs ss with
  | case1 => simp
  | case2 => simp
  | case3 r rs s ss hlt ih =>
    obtain ⟨_, hr2⟩ := List.pairwise_cons.1 hr
    simp only [covered_append, covered_meet?, ih hr2 hs, covered_cons]
    -- `r` ends inside `s`, below all that follows `s`
    have hbehind : n ∈ r → ¬ Covered n ss := by
      intro hn hc
      have := lt_of_covered_tail hs hc
      have := hn.2
      omega
    tauto
  | case4 r rs s ss hge ih =>
    obtain ⟨_, hs2⟩ := List.pairwise_cons.1 hs
    simp only [covered_append, covered_meet?, ih hr hs2, covered_cons]
    -- `s` ends inside `r`, below all that follows `r`
    have hbehind : n ∈ s → ¬ Covered n rs := by
      intro hn hc
      have := lt_of_covered_tail hr hc
      have := hn.2
      omega
    tauto

theorem mem_inter {n : Nat} {a b : RangeSet w} : n ∈ a.inter b ↔ n ∈ a ∧ n ∈ b :=
  covered_interList a.separated b.separated

/-! ## Difference -/

theorem covered_below? {n : Nat} {r s : Range w} :
    Covered n (below? r s).toList ↔ r.lo ≤ n ∧ n < s.lo := by
  unfold below?
  split
  · simp only [Option.toList_some, covered_cons, covered_nil, or_false, Range.mem_def]
    omega
  · simp only [Option.toList_none, covered_nil, false_iff]
    omega

/-- What is left of a range are its numbers that no cut has.  A cut that ends below the range
would move its lower end down, so every cut has to reach it. -/
theorem covered_cut {n : Nat} {r : Range w} {ss : List (Range w)}
    (hs : ss.Pairwise Range.Before) (hreach : ∀ s ∈ ss, r.lo ≤ s.hi) :
    Covered n (cut r ss) ↔ n ∈ r ∧ ¬ Covered n ss := by
  fun_induction cut r ss with
  | case1 r => simp
  | case2 r s ss habove =>
    simp only [covered_cons, covered_nil, or_false, iff_self_and]
    rintro hn (hc | hc)
    · have := hn.2
      have := hc.1
      omega
    · have := lt_of_covered_tail hs hc
      have := hn.2
      have := s.lo_le_hi
      omega
  | case3 r s ss hge ih =>
    obtain ⟨hs1, hs2⟩ := List.pairwise_cons.1 hs
    have hrs := hreach s (by simp)
    have hle := s.lo_le_hi
    rw [covered_append, covered_below?, covered_cons]
    -- what is below `s` stays, and what is above it is left to the later cuts
    by_cases hlt : s.hi < r.hi
    · rw [dif_pos hlt, ih hlt hs2 fun t ht => (hs1 t ht).hi_lt_hi]
      by_cases hc : Covered n ss
      · have := lt_of_covered_tail hs hc
        simp only [hc, not_true, or_true, and_false, or_false, iff_false]
        omega
      · simp only [hc, not_false_iff, or_false, and_true, Range.mem_def]
        omega
    · rw [dif_neg hlt]
      by_cases hc : Covered n ss
      · have := lt_of_covered_tail hs hc
        simp only [hc, covered_nil, not_true, or_true, and_false, or_false, iff_false]
        omega
      · simp only [hc, covered_nil, or_false, Range.mem_def]
        omega

/-- What a number's range leaves behind of the second list never had the number. -/
theorem covered_reaching {m n : Nat} {ss : List (Range w)} (hs : ss.Pairwise Range.Before)
    (h : m ≤ n) : Covered n (reaching m ss) ↔ Covered n ss := by
  constructor
  · rintro ⟨s, hmem, hn⟩
    exact ⟨s, ((mem_reaching hs).1 hmem).1, hn⟩
  · rintro ⟨s, hmem, hn⟩
    exact ⟨s, (mem_reaching hs).2 ⟨hmem, Nat.le_trans h hn.2⟩, hn⟩

theorem covered_diffList {n : Nat} {rs ss : List (Range w)} (hr : rs.Pairwise Range.Before)
    (hs : ss.Pairwise Range.Before) :
    Covered n (diffList rs ss) ↔ Covered n rs ∧ ¬ Covered n ss := by
  induction rs generalizing ss with
  | nil => simp [diffList]
  | cons r rs ih =>
    obtain ⟨_, hr2⟩ := List.pairwise_cons.1 hr
    have hs' := pairwise_reaching (n := r.lo) hs
    have hreach : ∀ s ∈ reaching r.lo ss, r.lo ≤ s.hi := fun s h => ((mem_reaching hs).1 h).2
    rw [diffList, covered_append, covered_cut hs' hreach, ih hr2 hs', covered_cons, or_and_right]
    -- all numbers in question are at least `r.lo`, so leaving ranges behind changes nothing
    refine or_congr (and_congr_right fun hn => ?_) (and_congr_right fun hc => ?_)
    · rw [covered_reaching hs hn.1]
    · have habove := lt_of_covered_tail hr hc
      have hlo := r.lo_le_hi
      rw [covered_reaching hs (by omega)]

theorem mem_diff {n : Nat} {a b : RangeSet w} : n ∈ a.diff b ↔ n ∈ a ∧ n ∉ b :=
  covered_diffList a.separated b.separated

theorem mem_symmDiff {n : Nat} {a b : RangeSet w} :
    n ∈ a.symmDiff b ↔ (n ∈ a ∧ n ∉ b) ∨ (n ∈ b ∧ n ∉ a) := by
  rw [symmDiff, mem_union, mem_diff, mem_diff]

/-! ## Tests -/

theorem isEmpty_iff {s : RangeSet w} : s.isEmpty = true ↔ ∀ n, n ∉ s := by
  rw [isEmpty, List.isEmpty_iff, ← not_exists]
  exact (not_iff_comm.1 exists_covered_iff.symm).symm

theorem covers_iff {a b : RangeSet w} : a.covers b = true ↔ ∀ n, n ∈ b → n ∈ a := by
  rw [covers, isEmpty_iff]
  simp only [mem_diff, not_and, not_not]

theorem isSome_meet? {r s : Range w} : (r.meet? s).isSome = r.intersects s := by
  have := r.lo_le_hi
  have := s.lo_le_hi
  unfold Range.meet? Range.intersects
  split
  · simp
    omega
  · simp
    omega

/-- The test and the intersection sweep in step, so the test fails exactly when no piece comes
out. -/
theorem intersectsList_eq (rs ss : List (Range w)) :
    intersectsList rs ss = !(interList rs ss).isEmpty := by
  fun_induction interList rs ss with
  | case1 => simp [intersectsList]
  | case2 => simp [intersectsList]
  | case3 r rs s ss hlt ih =>
    rw [intersectsList, if_pos hlt, ← isSome_meet?, ih]
    cases r.meet? s <;> simp
  | case4 r rs s ss hge ih =>
    rw [intersectsList, if_neg hge, ← isSome_meet?, ih]
    cases r.meet? s <;> simp

theorem intersectsList_iff {rs ss : List (Range w)} (hr : rs.Pairwise Range.Before)
    (hs : ss.Pairwise Range.Before) :
    intersectsList rs ss = true ↔ ∃ n, Covered n rs ∧ Covered n ss := by
  rw [intersectsList_eq, Bool.not_eq_true', ← Bool.not_eq_true, List.isEmpty_iff,
    ← ne_eq, ← exists_covered_iff]
  simp only [covered_interList hr hs]

/-- The runs of a set lie between its first lower and its last upper end. -/
theorem le_getLast_of_covered {n : Nat} {rs : List (Range w)} {last : Range w}
    (hr : rs.Pairwise Range.Before) (hlast : rs.getLast? = some last) (h : Covered n rs) :
    n ≤ last.hi := by
  obtain ⟨init, rfl⟩ := List.getLast?_eq_some_iff.1 hlast
  obtain ⟨r, hmem, _, hhi⟩ := h
  rcases List.mem_append.1 hmem with hmem | hmem
  · have hbefore := (List.pairwise_append.1 hr).2.2 r hmem last (by simp)
    have := last.lo_le_hi
    simp only [Range.Before] at hbefore
    omega
  · rw [List.mem_singleton.1 hmem] at hhi
    exact hhi

theorem head_le_of_covered {n : Nat} {rs : List (Range w)} {first : Range w}
    (hr : rs.Pairwise Range.Before) (hfirst : rs.head? = some first) (h : Covered n rs) :
    first.lo ≤ n := by
  obtain ⟨rest, rfl⟩ := List.head?_eq_some_iff.1 hfirst
  rcases covered_cons.1 h with h | h
  · exact h.1
  · have habove := lt_of_covered (List.pairwise_cons.1 hr).1 h
    have := first.lo_le_hi
    omega

/-- The test is exact.  It may skip the sweep: sets that lie apart as a whole have no common
number. -/
theorem intersects_iff {a b : RangeSet w} : a.intersects b = true ↔ ∃ n, n ∈ a ∧ n ∈ b := by
  unfold intersects
  split
  · rename_i firstA lastA firstB lastB hfa hla hfb hlb
    split
    · rename_i hapart
      simp only [Bool.false_eq_true, false_iff, not_exists, not_and]
      intro n ha hb
      have h1 := le_getLast_of_covered a.separated hla ha
      have h2 := head_le_of_covered a.separated hfa ha
      have h3 := le_getLast_of_covered b.separated hlb hb
      have h4 := head_le_of_covered b.separated hfb hb
      omega
    · exact intersectsList_iff a.separated b.separated
  · rename_i hnone
    simp only [Bool.false_eq_true, false_iff, not_exists, not_and]
    intro n ha hb
    have hane := exists_covered_iff.1 ⟨n, ha⟩
    have hbne := exists_covered_iff.1 ⟨n, hb⟩
    exact hnone _ _ _ _ (List.head?_eq_some_head hane) (List.getLast?_eq_some_getLast hane)
      (List.head?_eq_some_head hbne) (List.getLast?_eq_some_getLast hbne)

/-! ## Equality -/

/-- The first run of a separated list goes on as long as the numbers do. -/
theorem hi_le_of_covered {r s : Range w} {rs ss : List (Range w)}
    (hr : (r :: rs).Pairwise Range.Before) (hlo : r.lo = s.lo)
    (h : ∀ n, Covered n (s :: ss) → Covered n (r :: rs)) : s.hi ≤ r.hi := by
  by_contra hlt
  have hin : r.hi + 1 ∈ s := by
    have := r.lo_le_hi
    rw [Range.mem_def]
    omega
  rcases covered_cons.1 (h _ (covered_cons.2 (.inl hin))) with hmem | hrest
  · have := hmem.2
    omega
  · have := lt_of_covered_tail hr hrest
    omega

/-- The numbers behind the first run are those of the other runs. -/
theorem covered_tail_of_covered {n : Nat} {r : Range w} {rs ss : List (Range w)}
    (hr : (r :: rs).Pairwise Range.Before)
    (h : ∀ n, Covered n (r :: rs) → Covered n (r :: ss)) (hn : Covered n rs) : Covered n ss := by
  have habove := lt_of_covered_tail hr hn
  rcases covered_cons.1 (h n (covered_cons.2 (.inr hn))) with hmem | hrest
  · have := hmem.2
    omega
  · exact hrest

/-- Separated lists that cover the same numbers are equal. -/
theorem eq_of_covered_iff {rs ss : List (Range w)} (hr : rs.Pairwise Range.Before)
    (hs : ss.Pairwise Range.Before) (h : ∀ n, Covered n rs ↔ Covered n ss) : rs = ss := by
  induction rs generalizing ss with
  | nil =>
    by_contra hne
    obtain ⟨n, hn⟩ := exists_covered_iff.2 (Ne.symm hne)
    exact covered_nil ((h n).2 hn)
  | cons r rs ih =>
    cases ss with
    | nil => exact absurd ((h r.lo).1 (covered_lo r rs)) covered_nil
    | cons s ss =>
      -- each first run begins no later than the other, and ends no later
      have hlo : r.lo = s.lo := by
        have h1 := head_le_of_covered hs rfl ((h r.lo).1 (covered_lo r rs))
        have h2 := head_le_of_covered hr rfl ((h s.lo).2 (covered_lo s ss))
        omega
      have hhi : r.hi = s.hi := Nat.le_antisymm
        (hi_le_of_covered hs hlo.symm fun n => (h n).1) (hi_le_of_covered hr hlo fun n => (h n).2)
      obtain rfl := Range.ext_ends hlo hhi
      have hrest : rs = ss := ih (List.pairwise_cons.1 hr).2 (List.pairwise_cons.1 hs).2 fun n =>
        ⟨covered_tail_of_covered hr fun n => (h n).1, covered_tail_of_covered hs fun n => (h n).2⟩
      rw [hrest]

/-- Sets with the same numbers are equal. -/
theorem ext_mem {a b : RangeSet w} (h : ∀ n, n ∈ a ↔ n ∈ b) : a = b := by
  have hranges := eq_of_covered_iff a.separated b.separated h
  cases a
  cases b
  cases hranges
  rfl

end RpkiOverlap.RangeSet

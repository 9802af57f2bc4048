import RpkiOverlap.Range.Basic

/-! # Range sets

A `RangeSet w` is a finite union of ranges of the space of width `w`, kept as the list of
its maximal runs: ascending, and with a gap of at least one number between neighbours.
The gap is part of the type (`separated`), so two sets that have the same numbers are
equal.

* `RangeSet.ofList` takes ranges in any order and joins those that overlap or adjoin.
* `union`, `inter`, `diff` and `symmDiff` are the set operations.  Intersection is one sweep
  along both lists.  Difference takes the ranges one by one, and cuts each by the ranges of
  the other list that reach it.  Their pieces come out separated, which is what
  `pairwise_interList` and `pairwise_diffList` show.
* `covers` and `intersects` decide inclusion and common numbers.
-/
namespace RpkiOverlap

/-- Two ranges in ascending order with at least one number between them. -/
def Range.Before {w : Nat} (r s : Range w) : Prop := r.hi + 1 < s.lo

theorem Range.Before.hi_lt_hi {w : Nat} {r s : Range w} (h : r.Before s) : r.hi < s.hi := by
  have hle := s.lo_le_hi
  simp only [Range.Before] at h
  omega

/-- A set of numbers, as its maximal runs in ascending order. -/
structure RangeSet (w : Nat) where
  ranges : List (Range w)
  separated : ranges.Pairwise Range.Before

namespace RangeSet
variable {w : Nat}

instance : DecidableEq (RangeSet w) := fun a b =>
  decidable_of_iff (a.ranges = b.ranges)
    ⟨fun h => by cases a; cases b; simp_all, fun h => h ▸ rfl⟩

instance : Membership Nat (RangeSet w) := ⟨fun s n => ∃ r ∈ s.ranges, n ∈ r⟩

theorem mem_def {n : Nat} {s : RangeSet w} : n ∈ s ↔ ∃ r ∈ s.ranges, n ∈ r := Iff.rfl

/-- The set without numbers. -/
def empty : RangeSet w := ⟨[], .nil⟩

/-- Whether the set has no numbers. -/
def isEmpty (s : RangeSet w) : Bool := s.ranges.isEmpty

/-- The number of maximal runs. -/
def size (s : RangeSet w) : Nat := s.ranges.length

/-! ### Joining ranges -/

/-- Joins neighbours that overlap or adjoin, in a list ordered by lower ends. -/
def coalesce : List (Range w) → List (Range w)
  | [] => []
  | [r] => [r]
  | r :: s :: rest =>
    if s.lo ≤ r.hi + 1 then
      coalesce (⟨r.lo, max r.hi s.hi, Nat.le_trans r.lo_le_hi (Nat.le_max_left ..),
        Nat.max_lt.2 ⟨r.hi_lt, s.hi_lt⟩⟩ :: rest)
    else r :: coalesce (s :: rest)
termination_by rs => rs.length

/-- Joining keeps a lower bound of all lower ends. -/
theorem le_lo_of_mem_coalesce {rs : List (Range w)} {n : Nat} (h : ∀ r ∈ rs, n ≤ r.lo) :
    ∀ r ∈ coalesce rs, n ≤ r.lo := by
  fun_induction coalesce rs with
  | case1 => simp
  | case2 r => exact h
  | case3 r s rest _ ih => exact ih (by simp_all)
  | case4 r s rest _ ih =>
    have hr := h r (by simp)
    have ih := ih fun t ht => h t (by simp_all)
    simpa [hr] using ih

/-- Joining a list ordered by lower ends leaves gaps between all ranges. -/
theorem pairwise_coalesce {rs : List (Range w)} (h : rs.Pairwise fun r s => r.lo ≤ s.lo) :
    (coalesce rs).Pairwise Range.Before := by
  fun_induction coalesce rs with
  | case1 => exact .nil
  | case2 r => exact List.pairwise_singleton ..
  | case3 r s rest _ ih =>
    simp only [List.pairwise_cons, List.mem_cons, forall_eq_or_imp] at h
    exact ih (List.pairwise_cons.2 ⟨fun t ht => h.1.2 t ht, h.2.2⟩)
  | case4 r s rest hgap ih =>
    obtain ⟨_, hs, hrest⟩ := by simpa only [List.pairwise_cons] using h
    refine List.pairwise_cons.2 ⟨fun t ht => ?_, ih (List.pairwise_cons.2 ⟨hs, hrest⟩)⟩
    have hlo : s.lo ≤ t.lo :=
      le_lo_of_mem_coalesce (by simpa using hs) t ht
    simp only [Range.Before]
    omega

/-- Sorted ranges are ordered by their lower ends. -/
theorem pairwise_mergeSort_le (rs : List (Range w)) :
    (rs.mergeSort Range.le).Pairwise fun r s => r.lo ≤ s.lo := by
  have htotal : ∀ r s : Range w, (r.le s || s.le r) = true := fun r s => by
    simpa using Range.le_total r s
  have h := @List.pairwise_mergeSort (Range w) Range.le (fun _ _ _ => Range.le_trans) htotal rs
  exact h.imp fun hrs => Range.lo_le_lo_of_le hrs

/-- The set of the numbers of some ranges. -/
def ofList (rs : List (Range w)) : RangeSet w :=
  ⟨coalesce (rs.mergeSort Range.le), pairwise_coalesce (pairwise_mergeSort_le rs)⟩

/-- The numbers of either set. -/
def union (a b : RangeSet w) : RangeSet w := ofList (a.ranges ++ b.ranges)

/-! ### Intersection -/

/-- The common pieces of two ascending lists, by a sweep along both: of the two first
ranges, the one that ends first is left behind. -/
def interList : List (Range w) → List (Range w) → List (Range w)
  | [], _ => []
  | _, [] => []
  | r :: rs, s :: ss =>
    if r.hi < s.hi then (r.meet? s).toList ++ interList rs (s :: ss)
    else (r.meet? s).toList ++ interList (r :: rs) ss
termination_by rs ss => rs.length + ss.length

/-- A piece of an intersection lies inside a range of the first list and inside one of the
second. -/
theorem exists_of_mem_interList {rs ss : List (Range w)} {p : Range w}
    (h : p ∈ interList rs ss) :
    (∃ r ∈ rs, r.lo ≤ p.lo ∧ p.hi ≤ r.hi) ∧ ∃ s ∈ ss, s.lo ≤ p.lo ∧ p.hi ≤ s.hi := by
  fun_induction interList rs ss with
  | case1 => simp at h
  | case2 => simp at h
  | case3 r rs s ss hlt ih =>
    rcases List.mem_append.1 h with h | h
    · have hm : r.meet? s = some p := by simpa using h
      simp only [Range.meet?, Option.dite_none_right_eq_some, Option.some.injEq] at hm
      obtain ⟨_, rfl⟩ := hm
      exact ⟨⟨r, by simp, Nat.le_max_left .., Nat.min_le_left ..⟩,
        ⟨s, by simp, Nat.le_max_right .., Nat.min_le_right ..⟩⟩
    · obtain ⟨⟨t, ht, h1⟩, h2⟩ := ih h
      exact ⟨⟨t, List.mem_cons_of_mem _ ht, h1⟩, h2⟩
  | case4 r rs s ss hlt ih =>
    rcases List.mem_append.1 h with h | h
    · have hm : r.meet? s = some p := by simpa using h
      simp only [Range.meet?, Option.dite_none_right_eq_some, Option.some.injEq] at hm
      obtain ⟨_, rfl⟩ := hm
      exact ⟨⟨r, by simp, Nat.le_max_left .., Nat.min_le_left ..⟩,
        ⟨s, by simp, Nat.le_max_right .., Nat.min_le_right ..⟩⟩
    · obtain ⟨h1, t, ht, h2⟩ := ih h
      exact ⟨h1, t, List.mem_cons_of_mem _ ht, h2⟩

/-- The common part of two ranges ends where the first of them ends. -/
theorem hi_of_mem_meet? {r s p : Range w} (h : p ∈ (r.meet? s).toList) :
    p.hi ≤ r.hi ∧ p.hi ≤ s.hi := by
  have hm : r.meet? s = some p := by simpa using h
  simp only [Range.meet?, Option.dite_none_right_eq_some, Option.some.injEq] at hm
  obtain ⟨_, rfl⟩ := hm
  simp only
  omega

theorem pairwise_toList_append {o : Option (Range w)} {rs : List (Range w)}
    (hrs : rs.Pairwise Range.Before) (h : ∀ p ∈ o.toList, ∀ q ∈ rs, p.Before q) :
    (o.toList ++ rs).Pairwise Range.Before := by
  cases o with
  | none => simpa using hrs
  | some p => exact List.pairwise_cons.2 ⟨h p (by simp), hrs⟩

/-- The pieces of the intersection of two separated lists are separated. -/
theorem pairwise_interList {rs ss : List (Range w)} (hr : rs.Pairwise Range.Before)
    (hs : ss.Pairwise Range.Before) : (interList rs ss).Pairwise Range.Before := by
  fun_induction interList rs ss with
  | case1 => exact .nil
  | case2 => exact .nil
  | case3 r rs s ss hlt ih =>
    obtain ⟨hr1, hr2⟩ := List.pairwise_cons.1 hr
    refine pairwise_toList_append (ih hr2 hs) fun p hp q hq => ?_
    obtain ⟨⟨t, ht, hle, _⟩, _⟩ := exists_of_mem_interList hq
    have h1 := (hi_of_mem_meet? hp).1
    have h2 := hr1 t ht
    simp only [Range.Before] at *
    omega
  | case4 r rs s ss hlt ih =>
    obtain ⟨hs1, hs2⟩ := List.pairwise_cons.1 hs
    refine pairwise_toList_append (ih hr hs2) fun p hp q hq => ?_
    obtain ⟨_, t, ht, hle, _⟩ := exists_of_mem_interList hq
    have h1 := (hi_of_mem_meet? hp).2
    have h2 := hs1 t ht
    simp only [Range.Before] at *
    omega

/-- The numbers of both sets. -/
def inter (a b : RangeSet w) : RangeSet w :=
  ⟨interList a.ranges b.ranges, pairwise_interList a.separated b.separated⟩

/-! ### Difference -/

/-- The part of a range below the other range. -/
def below? (r s : Range w) : Option (Range w) :=
  if h : r.lo < s.lo then
    some ⟨r.lo, s.lo - 1, by omega, by have := s.lo_le_hi; have := s.hi_lt; omega⟩
  else none

/-- What the ranges of an ascending list leave of a range.  The first range that begins above
it ends the cutting. -/
def cut (r : Range w) : List (Range w) → List (Range w)
  | [] => [r]
  | s :: ss =>
    if r.hi < s.lo then [r]
    else
      (below? r s).toList ++
        if h : s.hi < r.hi then cut ⟨s.hi + 1, r.hi, h, r.hi_lt⟩ ss else []

/-- The ranges of an ascending list that end below a number are left behind. -/
def reaching (n : Nat) (ss : List (Range w)) : List (Range w) := ss.dropWhile fun s => s.hi < n

/-- The numbers of the first list that are not in the second.  The ranges are taken one by one,
and what a range leaves behind of the second list is behind the ranges after it too. -/
def diffList : List (Range w) → List (Range w) → List (Range w)
  | [], _ => []
  | r :: rs, ss => cut r (reaching r.lo ss) ++ diffList rs (reaching r.lo ss)

/-- What is not left behind of a separated list is separated. -/
theorem pairwise_reaching {n : Nat} {ss : List (Range w)} (hs : ss.Pairwise Range.Before) :
    (reaching n ss).Pairwise Range.Before :=
  hs.sublist (List.dropWhile_sublist _)

/-- What is left behind of a separated list is exactly what ends below the number. -/
theorem mem_reaching {n : Nat} {ss : List (Range w)} {s : Range w}
    (hs : ss.Pairwise Range.Before) : s ∈ reaching n ss ↔ s ∈ ss ∧ n ≤ s.hi := by
  induction ss with
  | nil => simp [reaching]
  | cons t ss ih =>
    obtain ⟨ht, hss⟩ := List.pairwise_cons.1 hs
    by_cases hlt : t.hi < n
    · have hcut : reaching n (t :: ss) = reaching n ss := by simp [reaching, hlt]
      rw [hcut, ih hss, List.mem_cons]
      constructor
      · exact fun h => ⟨.inr h.1, h.2⟩
      · rintro ⟨rfl | h, hn⟩
        · omega
        · exact ⟨h, hn⟩
    · have hcut : reaching n (t :: ss) = t :: ss := by simp [reaching, hlt]
      rw [hcut]
      refine ⟨fun h => ⟨h, ?_⟩, And.left⟩
      rcases List.mem_cons.1 h with rfl | h
      · omega
      · have := (ht s h).hi_lt_hi
        omega

theorem mem_below? {r s p : Range w} (h : p ∈ (below? r s).toList) :
    p.lo = r.lo ∧ r.lo < s.lo ∧ p.hi = s.lo - 1 := by
  have hm : below? r s = some p := by simpa using h
  simp only [below?, Option.dite_none_right_eq_some, Option.some.injEq] at hm
  obtain ⟨hlt, rfl⟩ := hm
  exact ⟨rfl, hlt, rfl⟩

/-- What is left of a range lies inside it, when all cuts reach it. -/
theorem inside_of_mem_cut {r p : Range w} {ss : List (Range w)} (hs : ss.Pairwise Range.Before)
    (hreach : ∀ s ∈ ss, r.lo ≤ s.hi) (h : p ∈ cut r ss) : r.lo ≤ p.lo ∧ p.hi ≤ r.hi := by
  fun_induction cut r ss with
  | case1 r => simp_all
  | case2 r s ss hlt => simp_all
  | case3 r s ss hge ih =>
    obtain ⟨hs1, hs2⟩ := List.pairwise_cons.1 hs
    have hrs := hreach s (by simp)
    rcases List.mem_append.1 h with h | h
    · obtain ⟨hlo, hlt, hhi⟩ := mem_below? h
      omega
    · split at h
      · rename_i hlt
        have hin := ih hlt hs2 (fun t ht => (hs1 t ht).hi_lt_hi) h
        simp only at hin
        omega
      · simp at h

/-- What is left of a range is separated. -/
theorem pairwise_cut {r : Range w} {ss : List (Range w)} (hs : ss.Pairwise Range.Before) :
    (cut r ss).Pairwise Range.Before := by
  fun_induction cut r ss with
  | case1 r => exact List.pairwise_singleton ..
  | case2 r s ss hlt => exact List.pairwise_singleton ..
  | case3 r s ss hge ih =>
    obtain ⟨hs1, hs2⟩ := List.pairwise_cons.1 hs
    refine pairwise_toList_append ?_ fun p hp q hq => ?_
    · split
      · rename_i hlt
        exact ih hlt hs2
      · exact .nil
    · obtain ⟨_, hlt, hhi⟩ := mem_below? hp
      split at hq
      · rename_i hlt
        have hreach : ∀ t ∈ ss, s.hi + 1 ≤ t.hi := fun t ht => (hs1 t ht).hi_lt_hi
        have hin := (inside_of_mem_cut hs2 hreach hq).1
        have hle := s.lo_le_hi
        simp only [Range.Before] at *
        omega
      · simp at hq

/-- A piece of a difference lies inside a range of the first list. -/
theorem exists_of_mem_diffList {rs ss : List (Range w)} {p : Range w}
    (hs : ss.Pairwise Range.Before) (h : p ∈ diffList rs ss) :
    ∃ r ∈ rs, r.lo ≤ p.lo ∧ p.hi ≤ r.hi := by
  induction rs generalizing ss with
  | nil => simp [diffList] at h
  | cons r rs ih =>
    rcases List.mem_append.1 h with h | h
    · have hreach : ∀ s ∈ reaching r.lo ss, r.lo ≤ s.hi := fun s h => ((mem_reaching hs).1 h).2
      exact ⟨r, by simp, inside_of_mem_cut (pairwise_reaching hs) hreach h⟩
    · obtain ⟨t, ht, hin⟩ := ih (pairwise_reaching hs) h
      exact ⟨t, List.mem_cons_of_mem _ ht, hin⟩

/-- The pieces of the difference of two separated lists are separated. -/
theorem pairwise_diffList {rs ss : List (Range w)} (hr : rs.Pairwise Range.Before)
    (hs : ss.Pairwise Range.Before) : (diffList rs ss).Pairwise Range.Before := by
  induction rs generalizing ss with
  | nil => exact .nil
  | cons r rs ih =>
    obtain ⟨hr1, hr2⟩ := List.pairwise_cons.1 hr
    have hs' := pairwise_reaching (n := r.lo) hs
    refine List.pairwise_append.2 ⟨pairwise_cut hs', ih hr2 hs', fun p hp q hq => ?_⟩
    have hreach : ∀ s ∈ reaching r.lo ss, r.lo ≤ s.hi := fun s h => ((mem_reaching hs).1 h).2
    obtain ⟨t, ht, hlo, _⟩ := exists_of_mem_diffList hs' hq
    have h1 := (inside_of_mem_cut hs' hreach hp).2
    have h2 := hr1 t ht
    simp only [Range.Before] at *
    omega

/-- The numbers of the first set that are not in the second. -/
def diff (a b : RangeSet w) : RangeSet w :=
  ⟨diffList a.ranges b.ranges, pairwise_diffList a.separated b.separated⟩

/-- The numbers of exactly one of the sets. -/
def symmDiff (a b : RangeSet w) : RangeSet w := (a.diff b).union (b.diff a)

/-! ### Tests -/

/-- Whether every number of the second set is in the first. -/
def covers (a b : RangeSet w) : Bool := (b.diff a).isEmpty

/-- Whether two ascending lists have a number in common, by a sweep along both that stops
at the first common number. -/
def intersectsList : List (Range w) → List (Range w) → Bool
  | [], _ => false
  | _, [] => false
  | r :: rs, s :: ss =>
    r.intersects s ||
      if r.hi < s.hi then intersectsList rs (s :: ss) else intersectsList (r :: rs) ss
termination_by rs ss => rs.length + ss.length

/-- Whether the two sets have a number in common.  Sets that lie apart as a whole are not
swept. -/
def intersects (a b : RangeSet w) : Bool :=
  match a.ranges.head?, a.ranges.getLast?, b.ranges.head?, b.ranges.getLast? with
  | some firstA, some lastA, some firstB, some lastB =>
    if lastA.hi < firstB.lo ∨ lastB.hi < firstA.lo then false
    else intersectsList a.ranges b.ranges
  | _, _, _, _ => false

end RangeSet
end RpkiOverlap

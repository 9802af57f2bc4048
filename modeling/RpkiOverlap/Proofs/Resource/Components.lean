import RpkiOverlap.Proofs.Range.Blocks
import RpkiOverlap.Proofs.Resource.Canonical

/-! # Components of resource sets

The components of a resource set are the aligned blocks of its families (`components_eq`).  So they
are aligned, ascend, have the numbers of the set, and no list of aligned resources with these
numbers is shorter (`isSplit_components`): such a list has no fewer blocks in any family, and every
resource counts in one family (`length_eq_sum`).  Collected, the components make the set again
(`ofList_components`).

`components_exact` puts this together with what `Range.blocks` does to a range and to a range set of
any width.
-/
namespace RpkiOverlap

namespace Resource

/-- A number of a family belongs to a resource. -/
def Has (r : Resource) (f : Family) (n : Nat) : Prop :=
  ∃ range, ResourceSet.rangeIn? f r = some range ∧ n ∈ range

/-- The range of the resource is an aligned block. -/
def IsAligned : Resource → Prop
  | asn r => r.IsAligned
  | ipv4 r => r.IsAligned
  | ipv6 r => r.IsAligned

theorem IsAligned.range {r : Resource} (h : r.IsAligned) {f : Family} {range : Range f.width}
    (hr : ResourceSet.rangeIn? f r = some range) : range.IsAligned := by
  cases f
  all_goals
    cases r
    all_goals cases hr
    exact h

end Resource

namespace ResourceSet

/-! ## Lists of resources by family -/

/-- Resources have the numbers of their ranges. -/
theorem exists_has_iff {rs : List Resource} {f : Family} {n : Nat} :
    (∃ r ∈ rs, r.Has f n) ↔ RangeSet.Covered n (rs.filterMap (rangeIn? f)) := by
  simp only [Resource.Has, RangeSet.Covered, List.mem_filterMap]
  constructor
  · rintro ⟨r, hr, range, hrange, hn⟩
    exact ⟨range, ⟨r, hr, hrange⟩, hn⟩
  · rintro ⟨range, ⟨r, hr, hrange⟩, hn⟩
    exact ⟨r, hr, range, hrange, hn⟩

theorem has_ofList {rs : List Resource} {f : Family} {n : Nat} :
    (ofList rs).Has f n ↔ ∃ r ∈ rs, r.Has f n := by
  rw [has_iff_mem_part, part_ofList, RangeSet.mem_ofList, exists_has_iff]

theorem isSome_rangeIn? (f : Family) (r : Resource) :
    (rangeIn? f r).isSome = decide (r.family = f) := by
  cases r
  all_goals
    cases f
    all_goals rfl

/-- Every resource is of one family. -/
theorem length_eq_sum (rs : List Resource) :
    rs.length = (rs.filterMap (rangeIn? .asn)).length + (rs.filterMap (rangeIn? .ipv4)).length +
      (rs.filterMap (rangeIn? .ipv6)).length := by
  simp only [List.length_filterMap_eq_countP, isSome_rangeIn?]
  induction rs with
  | nil => rfl
  | cons r rs ih =>
    have hone : (if r.family = .asn then 1 else 0) + (if r.family = .ipv4 then 1 else 0) +
        (if r.family = .ipv6 then 1 else 0) = 1 := by
      cases r
      all_goals rfl
    simp only [List.countP_cons, List.length_cons, decide_eq_true_eq]
    omega

/-! ## Components -/

/-- The components of a set are the blocks of its families. -/
theorem components_eq (s : ResourceSet) : s.components = ofRanges fun f => (s.part f).blocks := by
  simp only [components, toList, ofRanges, part, RangeSet.blocks, List.flatMap_append,
    List.flatMap_map, List.map_flatMap]
  rfl

theorem filterMap_components (s : ResourceSet) (f : Family) :
    s.components.filterMap (rangeIn? f) = (s.part f).blocks := by
  rw [components_eq, filterMap_ofRanges]

/-- A split of a set into aligned resources, in ascending order, with as few of them as there can
be. -/
structure IsSplit (rs : List Resource) (s : ResourceSet) : Prop where
  aligned : ∀ r ∈ rs, r.IsAligned
  /-- AS numbers come before IPv4 and this before IPv6, and ranges ascend in their family. -/
  ascending : rs.Pairwise fun a b => a.order b = .lt
  disjoint : rs.Pairwise fun a b => ∀ f n, a.Has f n → ¬ b.Has f n
  covered : ∀ f n, (∃ r ∈ rs, r.Has f n) ↔ s.Has f n
  minimal : ∀ rs' : List Resource, (∀ r ∈ rs', r.IsAligned) →
    (∀ f n, (∃ r ∈ rs', r.Has f n) ↔ s.Has f n) → rs.length ≤ rs'.length

theorem isAligned_of_mem_components {s : ResourceSet} {r : Resource} (h : r ∈ s.components) :
    r.IsAligned := by
  have haligned : ∀ f, ∀ b ∈ (s.part f).blocks, b.IsAligned := fun f =>
    (s.part f).isSplit_blocks.aligned
  simp only [components_eq, ofRanges, List.mem_append, List.mem_map] at h
  rcases h with (⟨b, hb, rfl⟩ | ⟨b, hb, rfl⟩) | ⟨b, hb, rfl⟩
  · exact haligned .asn b hb
  · exact haligned .ipv4 b hb
  · exact haligned .ipv6 b hb

theorem has_ofRange {f g : Family} {r : Range f.width} {n : Nat} :
    (ofRange f r).Has g n ↔ f = g ∧ n ∈ r := by
  cases f
  all_goals
    cases g
    all_goals simp [Resource.Has, ofRange, rangeIn?]

/-- Resources that follow each other, in one family or in two. -/
def Follows (a b : Resource) : Prop := a.order b = .lt ∧ ∀ f n, a.Has f n → ¬ b.Has f n

theorem follows_of_lt {f : Family} {r t : Range f.width} (h : r.hi < t.lo) :
    Follows (ofRange f r) (ofRange f t) := by
  have hle := r.lo_le_hi
  have horder : r.order t = .lt := by
    have hlo : compare r.lo t.lo = .lt := Nat.compare_eq_lt.2 (by omega)
    rw [Range.order, hlo]
    rfl
  refine ⟨?_, fun g n hr ht => ?_⟩
  · cases f
    all_goals exact horder
  · have hr := (has_ofRange.1 hr).2
    have ht := (has_ofRange.1 ht).2
    rw [Range.mem_def] at hr ht
    omega

theorem follows_of_family {f g : Family} (hne : f ≠ g) {r : Range f.width} {t : Range g.width}
    (h : (ofRange f r).order (ofRange g t) = .lt) : Follows (ofRange f r) (ofRange g t) :=
  ⟨h, fun _ _ hr ht => hne ((has_ofRange.1 hr).1.trans (has_ofRange.1 ht).1.symm)⟩

/-- The blocks of a family ascend, and the families follow each other. -/
theorem pairwise_components (s : ResourceSet) : s.components.Pairwise Follows := by
  have hfamily : ∀ f, ((s.part f).blocks.map (ofRange f)).Pairwise Follows := fun f =>
    List.pairwise_map.2 ((s.part f).pairwise_set_blocks.imp follows_of_lt)
  rw [components_eq, ofRanges, List.pairwise_append, List.pairwise_append]
  refine ⟨⟨hfamily .asn, hfamily .ipv4, fun a ha b hb => ?_⟩, hfamily .ipv6, fun a ha b hb => ?_⟩
  · obtain ⟨r, _, rfl⟩ := List.mem_map.1 ha
    obtain ⟨t, _, rfl⟩ := List.mem_map.1 hb
    exact follows_of_family (by decide) rfl
  · obtain ⟨t, _, rfl⟩ := List.mem_map.1 hb
    rcases List.mem_append.1 ha with ha | ha
    · obtain ⟨r, _, rfl⟩ := List.mem_map.1 ha
      exact follows_of_family (by decide) rfl
    · obtain ⟨r, _, rfl⟩ := List.mem_map.1 ha
      exact follows_of_family (by decide) rfl

theorem has_iff_components {s : ResourceSet} {f : Family} {n : Nat} :
    (∃ r ∈ s.components, r.Has f n) ↔ s.Has f n := by
  rw [exists_has_iff, filterMap_components, RangeSet.covered_set_blocks, has_iff_mem_part]

/-- Collected, the components of a set make the set again. -/
theorem ofList_components (s : ResourceSet) : ofList s.components = s :=
  ext_has fun f n => by rw [has_ofList, has_iff_components]

/-- Aligned resources with the numbers of a set are at least as many as its components: in each
family they are at least as many as the blocks. -/
theorem length_components_le {s : ResourceSet} {rs : List Resource}
    (haligned : ∀ r ∈ rs, r.IsAligned) (hcovered : ∀ f n, (∃ r ∈ rs, r.Has f n) ↔ s.Has f n) :
    s.components.length ≤ rs.length := by
  have hfamily : ∀ f, (s.components.filterMap (rangeIn? f)).length ≤
      (rs.filterMap (rangeIn? f)).length := by
    intro f
    rw [filterMap_components]
    refine RangeSet.length_blocks_le_of_covered (fun range hrange => ?_) (fun n => ?_)
    · obtain ⟨r, hr, hrange⟩ := List.mem_filterMap.1 hrange
      exact (haligned r hr).range hrange
    · rw [← exists_has_iff, hcovered, has_iff_mem_part]
  rw [length_eq_sum s.components, length_eq_sum rs]
  exact Nat.add_le_add (Nat.add_le_add (hfamily .asn) (hfamily .ipv4)) (hfamily .ipv6)

theorem isSplit_components (s : ResourceSet) : IsSplit s.components s where
  aligned _ := isAligned_of_mem_components
  ascending := s.pairwise_components.imp And.left
  disjoint := s.pairwise_components.imp And.right
  covered _ _ := has_iff_components
  minimal _ := length_components_le

/-! ## Ranges, range sets and resource sets -/

/-- **Components are exact and minimal.**  The blocks of a range, of a range set and of a resource
set are aligned, disjoint and in ascending order; they have its numbers, and no aligned blocks with
these numbers are fewer.  The components of a resource set make the set again.  A range of any
position and size is cut after at most `2 * w + 1` blocks. -/
theorem components_exact :
    (∀ (w : Nat) (r : Range w), RangeSet.IsSplit r.blocks (· ∈ r) ∧ r.blocks.length ≤ 2 * w + 1) ∧
    (∀ (w : Nat) (s : RangeSet w), RangeSet.IsSplit s.blocks (· ∈ s)) ∧
    (∀ s : ResourceSet, IsSplit s.components s ∧ ofList s.components = s) :=
  ⟨fun _ r => ⟨RangeSet.isSplit_range_blocks r, r.length_blocks_le_width⟩,
    fun _ s => s.isSplit_blocks, fun s => ⟨s.isSplit_components, s.ofList_components⟩⟩

end ResourceSet
end RpkiOverlap

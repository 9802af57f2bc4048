import RpkiOverlap.Proofs.Range.Canonical
import RpkiOverlap.Proofs.Resource.Algebra
import RpkiOverlap.Resource.Notation

/-! # The canonical form of resource sets

A resource set is *built* by collecting resources, by reading its notation or its JSON form, or by
an operation on built sets (`ResourceSet.Built`).  Every one of its families is then a range set
that has been constructed from ranges (`Built.construction`), and so in canonical form.

`canonical_form` puts together what follows for range sets of any width and for resource sets:
equality is that of the numbers, the size is the number of maximal runs, and what a set is collected
from may be reordered and repeated.
-/
namespace RpkiOverlap.ResourceSet
open RangeSet (Canonical Construction)

/-! ## Built sets -/

/-- The sets that can come about. -/
inductive Built : ResourceSet → Prop
  | empty : Built .empty
  | ofList (rs : List Resource) : Built (.ofList rs)
  | read {text : String} {s : ResourceSet} (h : read text = .ok s) : Built s
  | json {text : List Char} {s : ResourceSet} (h : ofJson? text = some s) : Built s
  | union {a b : ResourceSet} (ha : Built a) (hb : Built b) : Built (a.union b)
  | inter {a b : ResourceSet} (ha : Built a) (hb : Built b) : Built (a.inter b)
  | diff {a b : ResourceSet} (ha : Built a) (hb : Built b) : Built (a.diff b)
  | symmDiff {a b : ResourceSet} (ha : Built a) (hb : Built b) : Built (a.symmDiff b)

/-- The range of a resource of the given family. -/
def rangeIn? : (f : Family) → Resource → Option (Range f.width)
  | .asn, .asn r => some r
  | .ipv4, .ipv4 r => some r
  | .ipv6, .ipv6 r => some r
  | _, _ => none

/-- The resource of a family with the given range. -/
def ofRange : (f : Family) → Range f.width → Resource
  | .asn, r => .asn r
  | .ipv4, r => .ipv4 r
  | .ipv6, r => .ipv6 r

theorem filterMap_map_ofRange {f : Family} (rs : List (Range f.width)) :
    (rs.map (ofRange f)).filterMap (rangeIn? f) = rs := by
  have hown : ∀ r, rangeIn? f (ofRange f r) = some r := by
    cases f
    all_goals exact fun _ => rfl
  simp only [List.filterMap_map, Function.comp_def, hown, List.filterMap_some]

theorem filterMap_map_ofRange_of_ne {f g : Family} (h : f ≠ g) (rs : List (Range f.width)) :
    (rs.map (ofRange f)).filterMap (rangeIn? g) = [] := by
  have hother : ∀ r, rangeIn? g (ofRange f r) = none := by
    cases f
    all_goals
      cases g
      all_goals first | exact absurd rfl h | exact fun _ => rfl
  simp only [List.filterMap_map, Function.comp_def, hother, List.filterMap_none]

/-- The resources with the given ranges: AS numbers, then IPv4, then IPv6. -/
def ofRanges (ranges : (f : Family) → List (Range f.width)) : List Resource :=
  (ranges .asn).map (ofRange .asn) ++ (ranges .ipv4).map (ofRange .ipv4) ++
    (ranges .ipv6).map (ofRange .ipv6)

/-- Among resources with given ranges, those of a family have its ranges. -/
theorem filterMap_ofRanges (ranges : (f : Family) → List (Range f.width)) (f : Family) :
    (ofRanges ranges).filterMap (rangeIn? f) = ranges f := by
  rw [ofRanges, List.filterMap_append, List.filterMap_append]
  cases f with
  | asn =>
    rw [filterMap_map_ofRange, filterMap_map_ofRange_of_ne (by decide),
      filterMap_map_ofRange_of_ne (by decide), List.append_nil, List.append_nil]
  | ipv4 =>
    rw [filterMap_map_ofRange, filterMap_map_ofRange_of_ne (by decide),
      filterMap_map_ofRange_of_ne (by decide), List.append_nil, List.nil_append]
  | ipv6 =>
    rw [filterMap_map_ofRange, filterMap_map_ofRange_of_ne (by decide),
      filterMap_map_ofRange_of_ne (by decide), List.append_nil, List.nil_append]

/-- Each family collects its own resources. -/
theorem part_ofList (rs : List Resource) (f : Family) :
    (ofList rs).part f = .ofList (rs.filterMap (rangeIn? f)) := by
  cases f
  all_goals
    refine congrArg RangeSet.ofList (List.filterMap_congr fun r _ => ?_)
    cases r <;> rfl

/-- Reading collects the resources that the text names. -/
theorem exists_ofList_of_read {text : String} {s : ResourceSet} (h : read text = .ok s) :
    ∃ rs, s = ofList rs := by
  unfold read readList at h
  cases hrs : (parts text.toList).mapM Resource.readList with
  | error e =>
    rw [hrs] at h
    cases h
  | ok rs =>
    rw [hrs] at h
    cases h
    exact ⟨rs, rfl⟩

/-- A JSON form is a string with the notation. -/
theorem exists_read_of_ofJson? {text : List Char} {s : ResourceSet} (h : ofJson? text = some s) :
    ∃ inner, read inner = .ok s := by
  unfold ofJson? at h
  split at h
  · rename_i t _
    refine ⟨t, ?_⟩
    cases hr : read t with
    | error e =>
      rw [hr] at h
      cases h
    | ok s' =>
      rw [hr] at h
      cases h
      rfl
  · cases h

/-- The families of a built set are constructed from ranges. -/
theorem Built.construction {s : ResourceSet} (h : s.Built) (f : Family) :
    ∃ c : Construction f.width, c.set = s.part f := by
  have hofList : ∀ rs, ∃ c : Construction f.width, c.set = (ResourceSet.ofList rs).part f :=
    fun rs => ⟨.ofList (rs.filterMap (rangeIn? f)), (part_ofList rs f).symm⟩
  have hread : ∀ {text s}, ResourceSet.read text = .ok s →
      ∃ c : Construction f.width, c.set = s.part f := fun h => by
    obtain ⟨rs, rfl⟩ := exists_ofList_of_read h
    exact hofList rs
  induction h with
  | empty => exact ⟨.ofList [], by cases f <;> exact RangeSet.ofList_nil⟩
  | ofList rs => exact hofList rs
  | read h => exact hread h
  | json h =>
    obtain ⟨_, h⟩ := exists_read_of_ofJson? h
    exact hread h
  | union _ _ iha ihb =>
    obtain ⟨⟨a, ha⟩, b, hb⟩ := And.intro iha ihb
    exact ⟨.union a b, by rw [Construction.set, ha, hb, part_union]⟩
  | inter _ _ iha ihb =>
    obtain ⟨⟨a, ha⟩, b, hb⟩ := And.intro iha ihb
    exact ⟨.inter a b, by rw [Construction.set, ha, hb, part_inter]⟩
  | diff _ _ iha ihb =>
    obtain ⟨⟨a, ha⟩, b, hb⟩ := And.intro iha ihb
    exact ⟨.diff a b, by rw [Construction.set, ha, hb, part_diff]⟩
  | symmDiff _ _ iha ihb =>
    obtain ⟨⟨a, ha⟩, b, hb⟩ := And.intro iha ihb
    exact ⟨.symmDiff a b, by rw [Construction.set, ha, hb, part_symmDiff]⟩

/-! ## Equality and size -/

theorem eq_iff_has {a b : ResourceSet} : a = b ↔ ∀ f n, a.Has f n ↔ b.Has f n :=
  ⟨fun h _ _ => h ▸ Iff.rfl, ext_has⟩

theorem size_pos_iff {s : ResourceSet} : 0 < s.size ↔ ∃ f n, s.Has f n := by
  have hsize : s.size = 0 ↔ s.isEmpty = true := by
    simp only [size, isEmpty, RangeSet.size, RangeSet.isEmpty, Bool.and_eq_true, List.isEmpty_iff,
      Nat.add_eq_zero_iff, List.length_eq_zero_iff]
  rw [Nat.pos_iff_ne_zero, Ne, hsize, isEmpty_iff_has]
  simp only [not_forall, not_not]

/-- The size of a set is the number of its maximal runs, family by family. -/
theorem size_eq_ncard (s : ResourceSet) : s.size =
    {p : Nat × Nat | s.asn.IsRun p.1 p.2}.ncard + {p : Nat × Nat | s.ipv4.IsRun p.1 p.2}.ncard +
      {p : Nat × Nat | s.ipv6.IsRun p.1 p.2}.ncard := by
  rw [size, s.asn.size_eq_ncard, s.ipv4.size_eq_ncard, s.ipv6.size_eq_ncard]

/-- The order of the resources that make a set and their repetition do not matter. -/
theorem ofList_congr {rs ss : List Resource} (h : ∀ r, r ∈ rs ↔ r ∈ ss) : ofList rs = ofList ss :=
  ext_has fun f n => by
    have hparts : ∀ r, r ∈ rs.filterMap (rangeIn? f) ↔ r ∈ ss.filterMap (rangeIn? f) := by
      simp only [List.mem_filterMap, h, implies_true]
    rw [has_iff_mem_part, has_iff_mem_part, part_ofList, part_ofList, RangeSet.ofList_congr hparts]

/-! ## The canonical form -/

/-- **Range sets and resource sets are in canonical form.**

* Whatever ranges a set is made of, and whatever operations follow, the ranges of the result are
  those that the sweeps make, and these ascend with gaps between them; so it is in each family of
  every resource set that has been built.
* So equality is that of the numbers, the size is the number of maximal runs, and neither the order
  nor a repetition of what a set is made of matters. -/
theorem canonical_form :
    (∀ (w : Nat) (c : Construction w), c.set.ranges = c.runs ∧ Canonical c.runs) ∧
    (∀ s : ResourceSet, s.Built → ∀ f, Canonical (s.part f).ranges ∧
      ∃ c : Construction f.width, c.set = s.part f) ∧
    (∀ (w : Nat) (a b : RangeSet w), a = b ↔ ∀ n, n ∈ a ↔ n ∈ b) ∧
    (∀ a b : ResourceSet, a = b ↔ ∀ f n, a.Has f n ↔ b.Has f n) ∧
    (∀ (w : Nat) (s : RangeSet w), s.size = {p : Nat × Nat | s.IsRun p.1 p.2}.ncard) ∧
    (∀ s : ResourceSet, s.size = {p : Nat × Nat | s.asn.IsRun p.1 p.2}.ncard +
      {p : Nat × Nat | s.ipv4.IsRun p.1 p.2}.ncard +
      {p : Nat × Nat | s.ipv6.IsRun p.1 p.2}.ncard) ∧
    (∀ (w : Nat) (rs ss : List (Range w)), (∀ r, r ∈ rs ↔ r ∈ ss) →
      RangeSet.ofList rs = RangeSet.ofList ss) ∧
    (∀ rs ss : List Resource, (∀ r, r ∈ rs ↔ r ∈ ss) → ofList rs = ofList ss) := by
  refine ⟨fun w c => ⟨c.ranges_set, c.canonical_runs⟩, fun s hs f => ?_,
    fun w a b => RangeSet.eq_iff_mem, fun a b => eq_iff_has, fun w s => s.size_eq_ncard,
    fun s => ?_, fun w rs ss => RangeSet.ofList_congr, fun rs ss => ofList_congr⟩
  · obtain ⟨c, hc⟩ := hs.construction f
    refine ⟨?_, c, hc⟩
    rw [← hc, c.ranges_set]
    exact c.canonical_runs
  · rw [size, s.asn.size_eq_ncard, s.ipv4.size_eq_ncard, s.ipv6.size_eq_ncard]

/-- The AS numbers 7, 1 to 3 and 2 to 4, of which the last two meet. -/
def meetingAsns : List Resource :=
  [.asn ⟨7, 7, by decide, by decide⟩, .asn ⟨1, 3, by decide, by decide⟩,
    .asn ⟨2, 4, by decide, by decide⟩]

theorem canonical_form_meetingAsns :
    (ofList meetingAsns).Built ∧ Canonical ((ofList meetingAsns).part .asn).ranges ∧
      (∀ r, r ∈ meetingAsns ↔ r ∈ meetingAsns.reverse) ∧
      ofList meetingAsns = ofList meetingAsns.reverse := by
  obtain ⟨-, hbuilt, -, -, -, -, -, hcongr⟩ := canonical_form
  have hmem : ∀ r, r ∈ meetingAsns ↔ r ∈ meetingAsns.reverse := fun r => List.mem_reverse.symm
  exact ⟨.ofList _, (hbuilt _ (.ofList _) .asn).1, hmem, hcongr _ _ hmem⟩

end RpkiOverlap.ResourceSet

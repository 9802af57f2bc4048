import RpkiOverlap.Proofs.Range.Membership
import RpkiOverlap.Resource.Basic

/-! # The algebra of resource sets

A resource set is one range set for each family (`ResourceSet.part`).  Every operation works on
the parts, so what it does to the numbers of a family follows from what the operation on range
sets does, and the numbers of different families never interact.

* `ResourceSet.Has` reads each operation as the operation of set theory (`has_union`,
  `has_inter`, `has_diff`, `has_symmDiff`).
* The tests decide what they are named for (`covers_iff_has`, `intersects_iff_has`,
  `isEmpty_iff_has`), although `intersects` never builds an intersection.
* `algebra_exact` puts them together.
-/
namespace RpkiOverlap.ResourceSet

/-- The numbers of one family. -/
def part (s : ResourceSet) : (f : Family) → RangeSet f.width
  | .asn => s.asn
  | .ipv4 => s.ipv4
  | .ipv6 => s.ipv6

theorem has_iff_mem_part {s : ResourceSet} {f : Family} {n : Nat} :
    s.Has f n ↔ n ∈ s.part f := by
  cases f <;> rfl

/-! ## Operations -/

section
variable {a b : ResourceSet} {f : Family} {n : Nat}

theorem part_union : (a.union b).part f = (a.part f).union (b.part f) := by
  cases f <;> rfl

theorem part_inter : (a.inter b).part f = (a.part f).inter (b.part f) := by
  cases f <;> rfl

theorem part_diff : (a.diff b).part f = (a.part f).diff (b.part f) := by
  cases f <;> rfl

theorem part_symmDiff : (a.symmDiff b).part f = (a.part f).symmDiff (b.part f) := by
  cases f <;> rfl

theorem has_union : (a.union b).Has f n ↔ a.Has f n ∨ b.Has f n := by
  rw [has_iff_mem_part, part_union, RangeSet.mem_union, ← has_iff_mem_part, ← has_iff_mem_part]

theorem has_inter : (a.inter b).Has f n ↔ a.Has f n ∧ b.Has f n := by
  rw [has_iff_mem_part, part_inter, RangeSet.mem_inter, ← has_iff_mem_part, ← has_iff_mem_part]

theorem has_diff : (a.diff b).Has f n ↔ a.Has f n ∧ ¬ b.Has f n := by
  rw [has_iff_mem_part, part_diff, RangeSet.mem_diff, ← has_iff_mem_part, ← has_iff_mem_part]

theorem has_symmDiff :
    (a.symmDiff b).Has f n ↔ (a.Has f n ∧ ¬ b.Has f n) ∨ (b.Has f n ∧ ¬ a.Has f n) := by
  rw [has_iff_mem_part, part_symmDiff, RangeSet.mem_symmDiff, ← has_iff_mem_part,
    ← has_iff_mem_part]

end

/-! ## Tests -/

/-- A property of all families is one of each. -/
theorem forall_family {p : Family → Prop} : (∀ f, p f) ↔ p .asn ∧ p .ipv4 ∧ p .ipv6 := by
  constructor
  · intro h
    exact ⟨h .asn, h .ipv4, h .ipv6⟩
  · rintro ⟨h1, h2, h3⟩ f
    cases f <;> assumption

theorem exists_family {p : Family → Prop} : (∃ f, p f) ↔ p .asn ∨ p .ipv4 ∨ p .ipv6 := by
  constructor
  · rintro ⟨f, h⟩
    cases f with
    | asn => exact .inl h
    | ipv4 => exact .inr (.inl h)
    | ipv6 => exact .inr (.inr h)
  · rintro (h | h | h)
    · exact ⟨_, h⟩
    · exact ⟨_, h⟩
    · exact ⟨_, h⟩

theorem isEmpty_iff_has {s : ResourceSet} : s.isEmpty = true ↔ ∀ f n, ¬ s.Has f n := by
  rw [isEmpty, Bool.and_eq_true, Bool.and_eq_true, and_assoc, forall_family]
  exact and_congr RangeSet.isEmpty_iff (and_congr RangeSet.isEmpty_iff RangeSet.isEmpty_iff)

theorem covers_iff_has {a b : ResourceSet} :
    a.covers b = true ↔ ∀ f n, b.Has f n → a.Has f n := by
  rw [covers, Bool.and_eq_true, Bool.and_eq_true, and_assoc, forall_family]
  exact and_congr RangeSet.covers_iff (and_congr RangeSet.covers_iff RangeSet.covers_iff)

theorem intersects_iff_has {a b : ResourceSet} :
    a.intersects b = true ↔ ∃ f n, a.Has f n ∧ b.Has f n := by
  rw [intersects, Bool.or_eq_true, Bool.or_eq_true, or_assoc, exists_family]
  exact or_congr RangeSet.intersects_iff
    (or_congr RangeSet.intersects_iff RangeSet.intersects_iff)

/-- The test agrees with the intersection that it does not build. -/
theorem intersects_iff_inter {a b : ResourceSet} :
    a.intersects b = true ↔ (a.inter b).isEmpty = false := by
  rw [intersects_iff_has, ← Bool.not_eq_true, isEmpty_iff_has]
  simp only [has_inter, not_forall, not_not]

/-! ## Equality -/

/-- Sets with the same numbers in each family are equal. -/
theorem ext_has {a b : ResourceSet} (h : ∀ f n, a.Has f n ↔ b.Has f n) : a = b := by
  have hasn : a.asn = b.asn := RangeSet.ext_mem (h .asn)
  have hipv4 : a.ipv4 = b.ipv4 := RangeSet.ext_mem (h .ipv4)
  have hipv6 : a.ipv6 = b.ipv6 := RangeSet.ext_mem (h .ipv6)
  cases a
  cases b
  cases hasn
  cases hipv4
  cases hipv6
  rfl

theorem inter_comm (a b : ResourceSet) : a.inter b = b.inter a :=
  ext_has fun f n => by rw [has_inter, has_inter, and_comm]

theorem intersects_comm (a b : ResourceSet) : a.intersects b = b.intersects a := by
  rw [Bool.eq_iff_iff, intersects_iff_inter, intersects_iff_inter, inter_comm]

/-! ## The algebra -/

/-- **The resource algebra is exact.**  In each family the operations are those of set theory,
`covers` is inclusion in all families, and `intersects` finds a common number of one family
exactly when the intersection is not empty.  What an operation has in a family depends on what
its arguments have in that family alone. -/
theorem algebra_exact (a b : ResourceSet) :
    (∀ f n, (a.union b).Has f n ↔ a.Has f n ∨ b.Has f n) ∧
    (∀ f n, (a.inter b).Has f n ↔ a.Has f n ∧ b.Has f n) ∧
    (∀ f n, (a.diff b).Has f n ↔ a.Has f n ∧ ¬ b.Has f n) ∧
    (∀ f n, (a.symmDiff b).Has f n ↔
      (a.Has f n ∧ ¬ b.Has f n) ∨ (b.Has f n ∧ ¬ a.Has f n)) ∧
    (a.covers b = true ↔ ∀ f n, b.Has f n → a.Has f n) ∧
    (a.intersects b = true ↔ ∃ f n, a.Has f n ∧ b.Has f n) ∧
    (a.intersects b = true ↔ (a.inter b).isEmpty = false) ∧
    (∀ f a' b', (∀ n, a.Has f n ↔ a'.Has f n) → (∀ n, b.Has f n ↔ b'.Has f n) →
      ∀ op ∈ [union, inter, diff, symmDiff], ∀ n, (op a b).Has f n ↔ (op a' b').Has f n) := by
  refine ⟨fun _ _ => has_union, fun _ _ => has_inter, fun _ _ => has_diff,
    fun _ _ => has_symmDiff, covers_iff_has, intersects_iff_has, intersects_iff_inter, ?_⟩
  intro f a' b' ha hb op hop n
  simp only [List.mem_cons, List.not_mem_nil, or_false] at hop
  rcases hop with rfl | rfl | rfl | rfl
  · rw [has_union, has_union, ha, hb]
  · rw [has_inter, has_inter, ha, hb]
  · rw [has_diff, has_diff, ha, hb]
  · rw [has_symmDiff, has_symmDiff, ha, hb]

end RpkiOverlap.ResourceSet

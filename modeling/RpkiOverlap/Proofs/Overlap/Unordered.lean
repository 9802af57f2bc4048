import RpkiOverlap.Proofs.Overlap.Detection

/-! # Clusters as unordered pairs

A cluster is meant to be a pair without order: its members stand in the order of their paths, so
that it does not matter which of two entries comes first.

* Two entries have a cluster exactly when they are a candidate and not one and the same
  (`isSome_of?_iff`).  Neither depends on the order.
* Entries with distinct paths have one cluster, whichever comes first (`of?_comm`).
* Entries are told apart by URI and path, but ordered by path alone.  So two entries with one path
  stay in the order in which they come (`eq_of_path_eq`), and when their URIs differ their two
  clusters are not the same.

`of?_unordered` puts this together.
-/
namespace RpkiOverlap

/-- The text of one path begins that of another, and is not all of it. -/
def Path.IsProperPrefix (p q : Path) : Prop := p ≠ q ∧ p.text.toList <+: q.text.toList

theorem Path.related_iff {p q : Path} :
    p.related q = true ↔ p.IsProperPrefix q ∨ q.IsProperPrefix p := by
  simp only [related, Bool.and_eq_true, bne_iff_ne, Bool.or_eq_true, List.isPrefixOf_iff_prefix,
    IsProperPrefix, ne_comm (a := q), ← and_or_left]

namespace Cluster
variable {a b : Entry}

theorem of?_of_isCandidate_eq_false (h : isCandidate a b = false) : of? a b = none := by
  rw [isCandidate, Bool.and_eq_false_iff, Bool.not_eq_false'] at h
  rcases h with hrelated | hshared
  · rw [of?, if_pos (.inl hrelated)]
  · have hempty : (a.resources.inter b.resources).isEmpty = true := by
      rwa [← Bool.not_eq_true, ResourceSet.intersects_iff_inter, Bool.not_eq_false] at hshared
    rw [of?, hempty, if_pos rfl, ite_self]

/-- Two entries have a cluster when they are a candidate, unless they are one and the same. -/
theorem isSome_of?_iff : (of? a b).isSome = true ↔ isCandidate a b = true ∧ a.key ≠ b.key := by
  by_cases hkey : a.key = b.key
  · rw [of?_of_key_eq hkey]
    simp [hkey]
  · cases hcand : isCandidate a b with
    | false => simp [of?_of_isCandidate_eq_false hcand]
    | true =>
      obtain ⟨k, hk, -⟩ := exists_of?_joins hcand hkey
      simp [hk, hkey]

/-- Whether two entries have a cluster does not depend on which comes first. -/
theorem isSome_of?_comm (a b : Entry) : (of? a b).isSome = (of? b a).isSome := by
  rw [Bool.eq_iff_iff, isSome_of?_iff, isSome_of?_iff, isCandidate_comm, ne_comm]

/-- A cluster of two entries joins them. -/
theorem joins_of_of? {k : Cluster} (h : of? a b = some k) : k.Joins a b := by
  obtain ⟨hcand, hkey⟩ := isSome_of?_iff.1 (Option.isSome_of_eq_some h)
  obtain ⟨l, hl, hjoins⟩ := exists_of?_joins hcand hkey
  obtain rfl := Option.some.inj (h.symm.trans hl)
  exact hjoins

theorem Joins.symm {k : Cluster} (h : k.Joins b a) : k.Joins a b where
  members := h.members.symm
  ordered := h.ordered
  exact f n := (h.exact f n).trans and_comm
  nonempty := h.nonempty

/-- Entries with distinct paths have one cluster, whichever comes first. -/
theorem of?_comm (h : a.path ≠ b.path) : of? a b = of? b a := by
  cases hcand : isCandidate a b with
  | false =>
    rw [of?_of_isCandidate_eq_false hcand]
    rw [isCandidate_comm] at hcand
    rw [of?_of_isCandidate_eq_false hcand]
  | true =>
    have hcand' : isCandidate b a = true := isCandidate_comm a b ▸ hcand
    have htext : a.path.text ≠ b.path.text := fun heq => h (congrArg Path.mk heq)
    rcases lt_or_gt_of_ne htext with hlt | hgt
    · rw [of?_of_lt hcand hlt, of?_of_gt hcand' hlt]
    · rw [of?_of_gt hcand hgt, of?_of_lt hcand' hgt]

/-- Entries with one path stay in the order in which they come. -/
theorem eq_of_path_eq {k : Cluster} (hpath : a.path = b.path) (h : of? a b = some k) :
    k = ⟨a, b, a.resources.inter b.resources⟩ := by
  obtain ⟨hcand, hkey⟩ := isSome_of?_iff.1 (Option.isSome_of_eq_some h)
  rw [of?_of_isCandidate hcand hkey, if_pos] at h
  · exact (Option.some.inj h).symm
  · rw [hpath]
    exact decide_eq_true le_rfl

/-! ## Both orders -/

theorem same_iff {k l : Cluster} : k.same l = true ↔ k.first.key = l.first.key ∧
    k.second.key = l.second.key ∧ k.intersection = l.intersection := by
  simp [same, and_assoc]

/-- **Clusters of two entries in either order.**  There is a cluster in the one order exactly when
there is one in the other: when the entries differ in URI or path, neither path begins the other,
and some number of one family belongs to both.  Both clusters join the two entries and hold the
same resources.  They are the same exactly when the paths of the entries differ, and then nothing
tells them apart; two entries with one path change places. -/
theorem of?_unordered (a b : Entry) :
    ((of? a b).isSome = true ↔ (of? b a).isSome = true) ∧
    ((of? a b).isSome = true ↔ a.key ≠ b.key ∧ ¬ a.path.IsProperPrefix b.path ∧
      ¬ b.path.IsProperPrefix a.path ∧ ∃ f n, a.resources.Has f n ∧ b.resources.Has f n) ∧
    ∀ k l, of? a b = some k → of? b a = some l →
      k.Joins a b ∧ l.Joins a b ∧ k.intersection = l.intersection ∧
      (k.same l = true ↔ a.path ≠ b.path) ∧
      (a.path ≠ b.path → k = l) ∧
      (a.path = b.path → k.first = l.second ∧ k.second = l.first) := by
  refine ⟨by rw [isSome_of?_comm], ?_, fun k l hk hl => ?_⟩
  · rw [isSome_of?_iff, isCandidate_iff, ← Bool.not_eq_true, Path.related_iff, not_or, and_comm,
      and_assoc]
  · have hdistinct : a.path ≠ b.path → k = l := fun hpath =>
      Option.some.inj (hk.symm.trans ((of?_comm hpath).trans hl))
    have hsame : a.path = b.path → k = ⟨a, b, a.resources.inter b.resources⟩ ∧
        l = ⟨b, a, b.resources.inter a.resources⟩ := fun hpath =>
      ⟨eq_of_path_eq hpath hk, eq_of_path_eq hpath.symm hl⟩
    refine ⟨joins_of_of? hk, (joins_of_of? hl).symm, ?_, ?_, hdistinct, fun hpath => ?_⟩
    · by_cases hpath : a.path = b.path
      · obtain ⟨rfl, rfl⟩ := hsame hpath
        exact ResourceSet.inter_comm _ _
      · rw [hdistinct hpath]
    · constructor
      · -- members with one path change places, and they are not one and the same
        intro h hpath
        obtain ⟨rfl, rfl⟩ := hsame hpath
        exact (isSome_of?_iff.1 (Option.isSome_of_eq_some hk)).2 (same_iff.1 h).1
      · intro hpath
        rw [hdistinct hpath]
        exact same_iff.2 ⟨rfl, rfl, rfl⟩
    · obtain ⟨rfl, rfl⟩ := hsame hpath
      exact ⟨rfl, rfl⟩

/-- A certificate of one AS number at the position of the first child. -/
def firstChild (uri : String) : Entry :=
  .ofResources uri (.ofList [.asn (.single 64496 (by decide))]) (.of "/0/")

/-- Two certificates at one position have two clusters that are not the same: the one that comes
first stays first. -/
theorem of?_firstChild : ∃ k l, of? (firstChild "a.cer") (firstChild "b.cer") = some k ∧
    of? (firstChild "b.cer") (firstChild "a.cer") = some l ∧ k.same l = false := by
  refine ⟨⟨firstChild "a.cer", firstChild "b.cer", (firstChild "a.cer").resources⟩,
    ⟨firstChild "b.cer", firstChild "a.cer", (firstChild "a.cer").resources⟩, ?_, ?_, ?_⟩
  all_goals decide +kernel

end Cluster
end RpkiOverlap

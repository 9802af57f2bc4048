import Mathlib.Data.String.Basic
import RpkiOverlap.Proofs.Overlap.Pairs

/-! # The clusters of a comparison

Every candidate of entries with distinct paths makes a cluster, whichever of the two comes first
(`of?_of_lt`, `of?_of_gt`).  So the clusters of a comparison are those of the candidates without
an overloaded entry (`mem_clustersOf_iff`), each once (`nodup_clustersOf`), in the order of their
members' paths (`pairwise_clustersOf`).
-/
namespace RpkiOverlap

namespace Cluster

/-- The paths of the two members, in no order. -/
def paths (k : Cluster) : Sym2 Path := s(k.first.path, k.second.path)

theorem forall_mem_members {k : Cluster} {P : Entry → Prop} :
    (∀ m ∈ k.members, P m) ↔ P k.first ∧ P k.second := by
  simp [members]

theorem of?_of_isCandidate {a b : Entry} (hcand : isCandidate a b = true)
    (hkey : a.key ≠ b.key) :
    of? a b = if a.path.le b.path then some ⟨a, b, a.resources.inter b.resources⟩
      else some ⟨b, a, a.resources.inter b.resources⟩ := by
  obtain ⟨hrelated, hshared⟩ : a.path.related b.path = false ∧
      a.resources.intersects b.resources = true := by simpa [isCandidate] using hcand
  rw [of?, if_neg, if_neg]
  · rw [ResourceSet.intersects_iff_inter.1 hshared]
    exact Bool.false_ne_true
  · rintro (h | h)
    · rw [hrelated] at h
      exact Bool.false_ne_true h
    · exact hkey h

/-- Entries with distinct paths are distinct, whatever their URIs are. -/
theorem key_ne {a b : Entry} (h : a.path.text ≠ b.path.text) : a.key ≠ b.key := by
  intro heq
  exact h (congrArg Path.text (Prod.mk.inj heq).2)

theorem of?_of_lt {a b : Entry} (hcand : isCandidate a b = true)
    (h : a.path.text < b.path.text) :
    of? a b = some ⟨a, b, a.resources.inter b.resources⟩ := by
  rw [of?_of_isCandidate hcand (key_ne (ne_of_lt h)), if_pos]
  show decide (a.path.text ≤ b.path.text) = true
  exact decide_eq_true (le_of_lt h)

theorem of?_of_gt {a b : Entry} (hcand : isCandidate a b = true)
    (h : b.path.text < a.path.text) :
    of? a b = some ⟨b, a, b.resources.inter a.resources⟩ := by
  rw [of?_of_isCandidate hcand (key_ne (ne_of_gt h)), if_neg, ResourceSet.inter_comm]
  show ¬ decide (a.path.text ≤ b.path.text) = true
  rw [decide_eq_true_eq]
  exact not_le_of_gt h

/-- A cluster has the paths of the entries that it is made of. -/
theorem paths_of?_eq {a b : Entry} {k : Cluster} (h : of? a b = some k) :
    k.paths = s(a.path, b.path) := by
  unfold of? at h
  split at h
  · cases h
  · split at h
    · cases h
    · split at h
      · cases h
        rfl
      · cases h
        exact Sym2.eq_swap

/-! ## The order -/

theorem le_eq (k l : Cluster) : k.le l = (compareLex (compareOn fun c => c.first.path.text)
    (compareOn fun c => c.second.path.text) k l).isLE := rfl

theorem pairwise_mergeSort_le (ks : List Cluster) :
    (ks.mergeSort le).Pairwise fun k l => k.le l = true := by
  refine List.pairwise_mergeSort ?_ ?_ ks
  · intro k l m hkl hlm
    rw [le_eq] at hkl hlm ⊢
    exact Std.TransCmp.isLE_trans hkl hlm
  · intro k l
    rw [Bool.or_eq_true, le_eq, le_eq, or_iff_not_imp_left]
    intro hnot
    exact Ordering.isLE_of_eq_lt (Std.OrientedCmp.lt_of_not_isLE hnot)

end Cluster

namespace Scan
variable {limits : Limits} {entries : List Entry}

theorem isOverloaded_eq_false_iff (hn : (entries.map (·.path)).Nodup) {i : Nat} {a : Entry}
    (ha : entries[i]? = some a) :
    isOverloaded limits (degree (candidates entries)) i = false ↔
      Candidate.pathDegree entries a.path ≤ limits.perCertificate := by
  rw [isOverloaded, Candidate.degree_eq_pathDegree hn ha]
  simp

/-- The clusters come from the candidates of which neither entry is overloaded. -/
theorem mem_clustersOf {count : Nat → Nat} {pairs : List Candidate} {k : Cluster} :
    k ∈ clustersOf limits count pairs ↔ ∃ p ∈ pairs, isOverloaded limits count p.1.2 = false ∧
      isOverloaded limits count p.2.2 = false ∧ Cluster.of? p.1.1 p.2.1 = some k := by
  simp [clustersOf, List.mem_mergeSort, and_assoc]

/-- The clusters join the candidates with an entry each that is not overloaded, and hold the
resources common to both. -/
theorem mem_clustersOf_iff (hn : (entries.map (·.path)).Nodup) {k : Cluster} :
    k ∈ clustersOf limits (degree (candidates entries)) (candidates entries) ↔
      k.first ∈ entries ∧ k.second ∈ entries ∧ k.first.path.text < k.second.path.text ∧
        isCandidate k.first k.second = true ∧
        k.intersection = k.first.resources.inter k.second.resources ∧
        ∀ m ∈ k.members, Candidate.pathDegree entries m.path ≤ limits.perCertificate := by
  rw [mem_clustersOf, Cluster.forall_mem_members]
  constructor
  · rintro ⟨⟨⟨a, i⟩, b, j⟩, hp, hi, hj, hk⟩
    obtain ⟨hij, ha, hb, hcand⟩ := mem_candidates_iff.1 hp
    rw [isOverloaded_eq_false_iff hn ha] at hi
    rw [isOverloaded_eq_false_iff hn hb] at hj
    have hne : a.path.text ≠ b.path.text := by
      intro h
      exact Nat.ne_of_lt hij (Candidate.position_unique hn ha hb (congrArg Path.mk h))
    rcases lt_or_gt_of_ne hne with hlt | hgt
    · obtain rfl := Option.some.inj ((Cluster.of?_of_lt hcand hlt).symm.trans hk)
      exact ⟨List.mem_of_getElem? ha, List.mem_of_getElem? hb, hlt, hcand, rfl, hi, hj⟩
    · obtain rfl := Option.some.inj ((Cluster.of?_of_gt hcand hgt).symm.trans hk)
      rw [isCandidate_comm] at hcand
      exact ⟨List.mem_of_getElem? hb, List.mem_of_getElem? ha, hgt, hcand, rfl, hj, hi⟩
  · rintro ⟨ha, hb, hlt, hcand, hshared, hda, hdb⟩
    obtain ⟨a, b, shared⟩ := k
    obtain rfl : shared = a.resources.inter b.resources := hshared
    obtain ⟨i, hi⟩ := List.getElem?_of_mem ha
    obtain ⟨j, hj⟩ := List.getElem?_of_mem hb
    rw [← isOverloaded_eq_false_iff hn hi] at hda
    rw [← isOverloaded_eq_false_iff hn hj] at hdb
    -- the entry with the earlier path may stand first or second in the list
    rcases Nat.lt_trichotomy i j with hij | rfl | hij
    · exact ⟨((a, i), (b, j)), mem_candidates_iff.2 ⟨hij, hi, hj, hcand⟩, hda, hdb,
        Cluster.of?_of_lt hcand hlt⟩
    · have hab : a = b := Option.some.inj (hi.symm.trans hj)
      rw [hab] at hlt
      exact absurd hlt (lt_irrefl _)
    · rw [isCandidate_comm] at hcand
      exact ⟨((b, j), (a, i)), mem_candidates_iff.2 ⟨hij, hj, hi, hcand⟩, hdb, hda,
        Cluster.of?_of_gt hcand hlt⟩

variable (limits) in
/-- No two clusters have one pair of paths. -/
theorem nodup_clustersOf (hn : (entries.map (·.path)).Nodup) (count : Nat → Nat) :
    ((clustersOf limits count (candidates entries)).map Cluster.paths).Nodup := by
  have hsorted : ((clustersOf limits count (candidates entries)).map Cluster.paths).Perm
      ((((candidates entries).filter fun p => !isOverloaded limits count p.1.2 &&
        !isOverloaded limits count p.2.2).filterMap fun p =>
          Cluster.of? p.1.1 p.2.1).map Cluster.paths) := (List.mergeSort_perm _ _).map _
  rw [hsorted.nodup_iff, List.Nodup, List.pairwise_map, List.pairwise_filterMap]
  have hpairs : (candidates entries).Pairwise fun p q => p.paths ≠ q.paths :=
    List.pairwise_map.1 (Candidate.nodup_paths hn)
  refine (hpairs.sublist List.filter_sublist).imp fun hne k hk l hl heq => hne ?_
  rw [Candidate.paths, Candidate.paths, ← Cluster.paths_of?_eq hk, ← Cluster.paths_of?_eq hl, heq]

/-- The clusters come in the order of their members' paths. -/
theorem pairwise_clustersOf (count : Nat → Nat) (pairs : List Candidate) :
    (clustersOf limits count pairs).Pairwise fun k l => k.le l = true :=
  Cluster.pairwise_mergeSort_le _

/-- Discarded are the entries that take part in too many candidates. -/
theorem mem_overloaded_iff (hn : (entries.map (·.path)).Nodup) {a : Entry} :
    a ∈ (overloaded limits entries (degree (candidates entries))).map Prod.fst ↔
      a ∈ entries ∧ limits.perCertificate < Candidate.pathDegree entries a.path := by
  simp only [overloaded, List.mem_map, List.mem_filter, List.mem_zipIdx_iff_getElem?,
    ← Bool.not_eq_false]
  constructor
  · rintro ⟨⟨a, i⟩, ⟨ha, hi⟩, rfl⟩
    rw [isOverloaded_eq_false_iff hn ha, not_le] at hi
    exact ⟨List.mem_of_getElem? ha, hi⟩
  · rintro ⟨ha, hlt⟩
    obtain ⟨i, hi⟩ := List.getElem?_of_mem ha
    refine ⟨(a, i), ⟨hi, ?_⟩, rfl⟩
    rw [isOverloaded_eq_false_iff hn hi, not_le]
    exact hlt

end Scan

/-! ## The result -/

section
variable {limits : Limits} {entries : List Entry}

theorem detect_of_lt (h : limits.total < (candidates entries).length) :
    (detect limits entries).1 =
      .error (.overlapBudgetExceeded (candidates entries).length limits.total) := by
  rw [detect, Scan.conclude, if_pos h]

theorem detect_of_le (h : (candidates entries).length ≤ limits.total) :
    (detect limits entries).1 = .ok
      { clusters := Scan.clustersOf limits (Scan.degree (candidates entries)) (candidates entries)
        discarded :=
          (Scan.overloaded limits entries (Scan.degree (candidates entries))).map Prod.fst
        candidateCount := (candidates entries).length } := by
  rw [detect, Scan.conclude, if_neg (Nat.not_lt.2 h)]

end

end RpkiOverlap

import RpkiOverlap.Analysis
import RpkiOverlap.Proofs.Overlap.Conflicts
import RpkiOverlap.Proofs.Overlap.Policy

/-! # An analysis from end to end

An analysis extracts, compares and filters.  `Analysis.Exact` says what should come out of the
three together, in terms of the chains below the trust anchor and of their conflicts alone, and
`run_exact` that this comes out unless there are more conflicts than the limit.
-/
namespace RpkiOverlap.Analysis
open Time (Instant)

/-- An analysis that says what there is to say, and nothing else. -/
structure Exact (s : Snapshot) (d : Decoder) (config : Config) (now : Instant) (a : Analysis) :
    Prop where
  /-- All chains are counted. -/
  total : a.report.totalCertificates = (s.span d config.trustAnchor).ncard
  /-- Reported are the overlaps that the configuration wants. -/
  clusters : ∀ k, k ∈ a.report.clusters ↔
    s.Overlaps d config.trustAnchor config.limits k ∧ config.Wants now k
  /-- No two chains are reported twice. -/
  once : (a.report.clusters.map Cluster.paths).Nodup
  /-- The report is in the order of the paths. -/
  ordered : a.report.clusters.Pairwise fun k l => k.le l = true
  /-- The overlaps are also counted without regard to what the configuration wants. -/
  unfiltered : a.unfilteredClusters =
    {k | s.Overlaps d config.trustAnchor config.limits k}.ncard
  /-- Discarded are the ends of the chains that take part in too many conflicts. -/
  discarded : ∀ m, m ∈ a.discarded ↔ ∃ xs v c, s.Reaches d config.trustAnchor xs v c ∧
    config.limits.perCertificate < (s.conflictsOf d config.trustAnchor xs).ncard ∧
    m = .ofCertificate v c (.ofIndices xs)

variable {s : Snapshot} {d : Decoder} {config : Config} {now : Instant}

theorem fst_run : (run s d config now).1 =
    (detect config.limits (s.extract d config.trustAnchor)).1.map
      (ofScan config now (s.extract d config.trustAnchor).length) := by
  simp only [run]
  rcases detect config.limits (s.extract d config.trustAnchor) with ⟨fault | scan, events⟩
  · rfl
  · rfl

/-- A comparison within the limit makes an exact analysis. -/
theorem exact_ofScan {scan : Scan}
    (hle : (candidates (s.extract d config.trustAnchor)).length ≤ config.limits.total)
    (hscan : (detect config.limits (s.extract d config.trustAnchor)).1 = .ok scan) :
    Exact s d config now (ofScan config now (s.extract d config.trustAnchor).length scan) := by
  have hn := s.nodup_path_extract (d := d) config.trustAnchor
  obtain rfl := Except.ok.inj ((detect_of_le hle).symm.trans hscan)
  have hpaths := Scan.nodup_clustersOf config.limits hn
    (Scan.degree (candidates (s.extract d config.trustAnchor)))
  refine ⟨Snapshot.ncard_span.symm, ?_, ?_, ?_, ?_, ?_⟩
  · intro k
    rw [← Policy.admits_ofConfig_iff, ← Snapshot.mem_clustersOf_extract_iff]
    show k ∈ List.filter _ _ ↔ _
    exact List.mem_filter
  · exact hpaths.sublist (List.filter_sublist.map _)
  · exact (Scan.pairwise_clustersOf _ _).sublist List.filter_sublist
  · refine (length_eq_ncard hpaths.of_map).trans ?_
    simp only [Snapshot.mem_clustersOf_extract_iff]
  · intro m
    refine (Scan.mem_overloaded_iff hn).trans ?_
    constructor
    · rintro ⟨hm, hlt⟩
      obtain ⟨xs, v, c, hx, rfl⟩ := Snapshot.mem_extract_iff_reaches.1 hm
      refine ⟨xs, v, c, hx, ?_, rfl⟩
      rw [Snapshot.ncard_conflictsOf]
      exact hlt
    · rintro ⟨xs, v, c, hx, hlt, rfl⟩
      rw [Snapshot.ncard_conflictsOf] at hlt
      exact ⟨Snapshot.mem_extract_iff_reaches.2 ⟨xs, v, c, hx, rfl⟩, hlt⟩

/-- **An analysis is exact.**  It fails only by giving up a comparison with more conflicts than
the limit, whatever objects are missing, unreadable or list each other, and otherwise it reports
each overlap that the configuration wants, once. -/
theorem run_exact (s : Snapshot) (d : Decoder) (config : Config) (now : Instant) :
    (s.span d config.trustAnchor).Finite ∧ (s.conflicts d config.trustAnchor).Finite ∧
    (config.limits.total < (s.conflicts d config.trustAnchor).ncard → ∃ total,
      (run s d config now).1 = .error (.overlapBudgetExceeded total config.limits.total) ∧
      config.limits.total < total ∧ total ≤ (s.conflicts d config.trustAnchor).ncard) ∧
    ((s.conflicts d config.trustAnchor).ncard ≤ config.limits.total → ∃ a,
      (run s d config now).1 = .ok a ∧ Exact s d config now a) := by
  rw [Snapshot.ncard_conflicts, fst_run]
  refine ⟨Snapshot.finite_span, Snapshot.finite_conflicts, ?_, ?_⟩
  · intro hlt
    rw [detect_of_lt hlt]
    exact ⟨_, rfl, hlt, Nat.le_refl _⟩
  · intro hle
    rw [detect_of_le hle]
    exact ⟨_, rfl, exact_ofScan hle (detect_of_le hle)⟩

end RpkiOverlap.Analysis

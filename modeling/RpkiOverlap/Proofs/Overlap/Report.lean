import RpkiOverlap.Overlap.Report
import RpkiOverlap.Proofs.Overlap.Pairs
import RpkiOverlap.Proofs.Resource.Canonical

/-! # The counts of a report

A report counts members and resources of some clusters.  Here its counts are compared with the
cardinalities that they stand for.

* A cluster shares what both members hold, and that is never nothing (`IsMade`).  So the resources
  of a report are the numbers that both members of some cluster hold (`has_sharedResources_iff`).
* Members are told apart by path, and this is done twice: by erasing duplicates among the paths, and
  by looking out for entries with a new path.  Both find the same paths (`map_path_firstByPath`),
  each once.
* The new entries stand where a path occurs for the first time (`exists_firsts`).

`of_exact` puts this together.
-/
namespace RpkiOverlap

/-- A cluster that has been made of two entries. -/
def Cluster.IsMade (c : Cluster) : Prop := ∃ a b, Cluster.of? a b = some c

theorem Cluster.IsMade.intersection_eq {c : Cluster} (h : c.IsMade) :
    c.intersection = c.first.resources.inter c.second.resources ∧
      c.intersection.isEmpty = false := by
  obtain ⟨a, b, hc⟩ := h
  unfold of? at hc
  split at hc
  · cases hc
  · split at hc
    · cases hc
    · rename_i hshared
      split at hc
      · cases hc
        exact ⟨rfl, Bool.eq_false_iff.2 hshared⟩
      · cases hc
        exact ⟨ResourceSet.inter_comm _ _, Bool.eq_false_iff.2 hshared⟩

/-- Both members of a cluster that has been made hold some number. -/
theorem Cluster.IsMade.exists_has {c : Cluster} (h : c.IsMade) :
    ∃ f n, c.intersection.Has f n := by
  by_contra hnone
  have hempty : c.intersection.isEmpty = true :=
    ResourceSet.isEmpty_iff_has.2 fun f n hn => hnone ⟨f, n, hn⟩
  rw [h.intersection_eq.2] at hempty
  cases hempty

namespace Report

/-! ## Shared resources -/

theorem has_foldl_union {f : Family} {n : Nat} (clusters : List Cluster) (acc : ResourceSet) :
    (clusters.foldl (fun acc c => acc.union c.intersection) acc).Has f n ↔
      acc.Has f n ∨ ∃ c ∈ clusters, c.intersection.Has f n := by
  induction clusters generalizing acc with
  | nil => simp
  | cons c rest ih =>
    rw [List.foldl_cons, ih, ResourceSet.has_union, or_assoc]
    simp only [List.exists_mem_cons_iff]

theorem has_sharedResources {clusters : List Cluster} {f : Family} {n : Nat} :
    (sharedResources clusters).Has f n ↔ ∃ c ∈ clusters, c.intersection.Has f n := by
  have hempty : ¬ ResourceSet.empty.Has f n := ResourceSet.isEmpty_iff_has.1 rfl f n
  rw [sharedResources, has_foldl_union, or_iff_right hempty]

/-- The common resources are the numbers that both members of some cluster hold. -/
theorem has_sharedResources_iff {clusters : List Cluster} (h : ∀ c ∈ clusters, c.IsMade)
    {f : Family} {n : Nat} : (sharedResources clusters).Has f n ↔
      ∃ c ∈ clusters, c.first.resources.Has f n ∧ c.second.resources.Has f n := by
  rw [has_sharedResources]
  refine exists_congr fun c => and_congr_right fun hc => ?_
  rw [(h c hc).intersection_eq.1, ResourceSet.has_inter]

/-- Where there is a cluster there is a common resource. -/
theorem size_sharedResources_pos_iff {clusters : List Cluster} (h : ∀ c ∈ clusters, c.IsMade) :
    0 < (sharedResources clusters).size ↔ clusters ≠ [] := by
  rw [ResourceSet.size_pos_iff]
  constructor
  · rintro ⟨f, n, hn⟩
    obtain ⟨c, hc, -⟩ := has_sharedResources.1 hn
    exact List.ne_nil_of_mem hc
  · intro hne
    obtain ⟨c, hc⟩ := List.exists_mem_of_ne_nil clusters hne
    obtain ⟨f, n, hn⟩ := (h c hc).exists_has
    exact ⟨f, n, has_sharedResources.2 ⟨c, hc, hn⟩⟩

/-! ## Members by path -/

/-- Two ways to have each path once. -/
theorem map_path_firstByPath (seen : List Path) (es : List Entry) :
    (firstByPath seen es).map (·.path) =
      ((es.map (·.path)).filter fun p => p ∉ seen).eraseDups := by
  induction es generalizing seen with
  | nil => rfl
  | cons e rest ih =>
    rw [firstByPath, List.map_cons]
    by_cases hseen : e.path ∈ seen
    · rw [if_pos hseen, ih, List.filter_cons_of_neg (by simpa using hseen)]
    · rw [if_neg hseen, List.map_cons, ih, List.filter_cons_of_pos (by simpa using hseen),
        List.eraseDups_cons, List.filter_filter]
      congr 3
      funext p
      rw [Bool.eq_iff_iff]
      simp [List.mem_cons]

theorem mem_map_path_firstByPath {seen : List Path} {es : List Entry} {p : Path} :
    p ∈ (firstByPath seen es).map (·.path) ↔ p ∈ es.map (·.path) ∧ p ∉ seen := by
  rw [map_path_firstByPath, List.mem_eraseDups, List.mem_filter, decide_eq_true_iff]

theorem nodup_map_path_firstByPath (seen : List Path) (es : List Entry) :
    ((firstByPath seen es).map (·.path)).Nodup := by
  induction es generalizing seen with
  | nil => exact List.nodup_nil
  | cons e rest ih =>
    rw [firstByPath]
    by_cases hseen : e.path ∈ seen
    · rw [if_pos hseen]
      exact ih seen
    · rw [if_neg hseen, List.map_cons, List.nodup_cons]
      exact ⟨fun hmem => (mem_map_path_firstByPath.1 hmem).2 (.head _), ih (e.path :: seen)⟩

/-- The paths of the members of some clusters. -/
def memberPaths (clusters : List Cluster) : Set Path :=
  {p | ∃ c ∈ clusters, ∃ m ∈ c.members, m.path = p}

theorem mem_map_path_membersOf {clusters : List Cluster} {p : Path} :
    p ∈ (membersOf clusters).map (·.path) ↔ p ∈ memberPaths clusters := by
  simp only [membersOf, List.mem_map, List.mem_flatMap, memberPaths, Set.mem_ofPred_eq]
  constructor
  · rintro ⟨m, ⟨c, hc, hm⟩, hp⟩
    exact ⟨c, hc, m, hm, hp⟩
  · rintro ⟨c, hc, m, hm, hp⟩
    exact ⟨m, ⟨c, hc, hm⟩, hp⟩

theorem length_firstByPath (clusters : List Cluster) :
    (firstByPath [] (membersOf clusters)).length = (memberPaths clusters).ncard := by
  rw [← List.length_map (·.path), length_eq_ncard (nodup_map_path_firstByPath _ _)]
  congr 1
  ext p
  rw [Set.mem_ofPred_eq, mem_map_path_firstByPath, mem_map_path_membersOf]
  exact and_iff_left List.not_mem_nil

/-- Both ways to count the paths count them all. -/
theorem length_eraseDups (clusters : List Cluster) :
    ((membersOf clusters).map (·.path)).eraseDups.length = (memberPaths clusters).ncard := by
  have hpaths := map_path_firstByPath [] (membersOf clusters)
  simp only [List.not_mem_nil, not_false_eq_true, decide_true, List.filter_true] at hpaths
  rw [← hpaths, List.length_map, length_firstByPath]

/-! ## First occurrences -/

/-- An entry stands at a position, and no entry with its path stands before. -/
def FirstAt (es : List Entry) (i : Nat) (e : Entry) : Prop :=
  es[i]? = some e ∧ ∀ j < i, ∀ e', es[j]? = some e' → e'.path ≠ e.path

theorem firstAt_zero {es : List Entry} {a e : Entry} : FirstAt (a :: es) 0 e ↔ a = e := by
  rw [FirstAt, List.getElem?_cons_zero, Option.some_inj, and_iff_left]
  exact fun j hj => absurd hj (Nat.not_lt_zero j)

/-- Behind an entry, a path is new if it is new to the rest and not that entry's. -/
theorem firstAt_succ {seen : List Path} {es : List Entry} {a e : Entry} {i : Nat} :
    FirstAt (a :: es) (i + 1) e ∧ e.path ∉ seen ↔ FirstAt es i e ∧ e.path ∉ a.path :: seen := by
  rw [FirstAt, Nat.forall_lt_succ_left, List.mem_cons, not_or, FirstAt]
  simp only [List.getElem?_cons_zero, List.getElem?_cons_succ, Option.some_inj, forall_eq']
  rw [ne_comm, and_assoc, and_assoc, and_assoc]
  exact and_congr_right fun _ => and_left_comm

/-- Some positions are those of the first entries with paths that are new to `seen`, in order, and
some entries are the ones that stand there. -/
structure Firsts (seen : List Path) (es : List Entry) (firsts : List Nat) (kept : List Entry) :
    Prop where
  ascending : firsts.Pairwise (· < ·)
  mem_iff : ∀ i, i ∈ firsts ↔ ∃ e, FirstAt es i e ∧ e.path ∉ seen
  kept : List.Forall₂ (fun i e => FirstAt es i e ∧ e.path ∉ seen) firsts kept

section
variable {seen : List Path} {rest : List Entry} {firsts : List Nat} {kept : List Entry} {a : Entry}

theorem Firsts.skip (h : Firsts seen rest firsts kept) (ha : a.path ∈ seen) :
    Firsts seen (a :: rest) (firsts.map (· + 1)) kept := by
  have hcons : ∀ e : Entry, e.path ∉ a.path :: seen ↔ e.path ∉ seen := fun e => by
    rw [List.mem_cons, or_iff_right_of_imp fun heq => heq ▸ ha]
  refine ⟨h.ascending.map _ fun _ _ => Nat.succ_lt_succ, fun i => ?_, ?_⟩
  · cases i with
    | zero => simp [firstAt_zero, ha]
    | succ i =>
      simp only [firstAt_succ, hcons, ← h.mem_iff]
      simp
  · refine List.forall₂_map_left_iff.2 (h.kept.imp fun i e he => ?_)
    rwa [firstAt_succ, hcons]

theorem Firsts.take (h : Firsts (a.path :: seen) rest firsts kept) (ha : a.path ∉ seen) :
    Firsts seen (a :: rest) (0 :: firsts.map (· + 1)) (a :: kept) := by
  refine ⟨List.pairwise_cons.2 ⟨?_, h.ascending.map _ fun _ _ => Nat.succ_lt_succ⟩, fun i => ?_,
    .cons ⟨firstAt_zero.2 rfl, ha⟩ ?_⟩
  · simp
  · cases i with
    | zero => simp [firstAt_zero, ha]
    | succ i =>
      simp only [firstAt_succ, ← h.mem_iff]
      simp
  · refine List.forall₂_map_left_iff.2 (h.kept.imp fun i e he => ?_)
    rwa [firstAt_succ]

end

theorem exists_firsts (seen : List Path) (es : List Entry) :
    ∃ firsts, Firsts seen es firsts (firstByPath seen es) := by
  induction es generalizing seen with
  | nil => exact ⟨[], .nil, by simp [FirstAt], .nil⟩
  | cons a rest ih =>
    rw [firstByPath]
    by_cases hseen : a.path ∈ seen
    · obtain ⟨firsts, h⟩ := ih seen
      rw [if_pos hseen]
      exact ⟨_, h.skip hseen⟩
    · obtain ⟨firsts, h⟩ := ih (a.path :: seen)
      rw [if_neg hseen]
      exact ⟨_, h.take hseen⟩

/-- The URIs of a report are found at the first positions. -/
theorem exists_forall₂_overlappingUris (r : Report) : ∃ firsts : List Nat,
    firsts.Pairwise (· < ·) ∧
    (∀ i, i ∈ firsts ↔ ∃ m, FirstAt (membersOf r.clusters) i m) ∧
    List.Forall₂ (fun i uri => ∃ m, FirstAt (membersOf r.clusters) i m ∧ m.uri = uri)
      firsts r.overlappingUris := by
  obtain ⟨firsts, hascending, hmem, hkept⟩ := exists_firsts [] (membersOf r.clusters)
  refine ⟨firsts, hascending, by simpa using hmem, List.forall₂_map_right_iff.2 ?_⟩
  exact hkept.imp fun i m hm => ⟨m, hm.1, rfl⟩

/-! ## The counts -/

/-- Reports on the same clusters, whatever their order and repetitions, have the same counts. -/
theorem memberPaths_congr {clusters clusters' : List Cluster}
    (h : ∀ c, c ∈ clusters' ↔ c ∈ clusters) : memberPaths clusters' = memberPaths clusters := by
  simp only [memberPaths, h]

theorem sharedResources_congr {clusters clusters' : List Cluster}
    (h : ∀ c, c ∈ clusters' ↔ c ∈ clusters) :
    sharedResources clusters' = sharedResources clusters :=
  ResourceSet.ext_has fun f n => by simp only [has_sharedResources, h]

theorem ncard_memberPaths_pos_iff {clusters : List Cluster} :
    0 < (memberPaths clusters).ncard ↔ clusters ≠ [] := by
  rw [← length_firstByPath]
  cases clusters with
  | nil => simp [membersOf, firstByPath]
  | cons c rest => simp [membersOf, Cluster.members, firstByPath]

/-- **The counts of a report are cardinalities.**  For clusters that have been made of two entries
each: the resources are the numbers that both members of some cluster hold, and their count is that
of the maximal runs; the count of certificates is that of the paths of members, and so many URIs are
listed, one for each first occurrence of a path, in order.  Neither the order nor a repetition of
clusters matters to the counts.  There are overlaps exactly when either count is not zero. -/
theorem of_exact (total : Nat) (clusters : List Cluster) (h : ∀ c ∈ clusters, c.IsMade) :
    (∀ f n, (Report.of total clusters).resources.Has f n ↔
      ∃ c ∈ clusters, c.first.resources.Has f n ∧ c.second.resources.Has f n) ∧
    (Report.of total clusters).overlappingResources =
      {p : Nat × Nat | (Report.of total clusters).resources.asn.IsRun p.1 p.2}.ncard +
      {p : Nat × Nat | (Report.of total clusters).resources.ipv4.IsRun p.1 p.2}.ncard +
      {p : Nat × Nat | (Report.of total clusters).resources.ipv6.IsRun p.1 p.2}.ncard ∧
    (Report.of total clusters).overlappingCertificates =
      {p | ∃ c ∈ clusters, ∃ m ∈ c.members, m.path = p}.ncard ∧
    (Report.of total clusters).overlappingUris.length =
      (Report.of total clusters).overlappingCertificates ∧
    (∃ firsts : List Nat, firsts.Pairwise (· < ·) ∧
      (∀ i, i ∈ firsts ↔ ∃ m, FirstAt (membersOf clusters) i m) ∧
      List.Forall₂ (fun i uri => ∃ m, FirstAt (membersOf clusters) i m ∧ m.uri = uri)
        firsts (Report.of total clusters).overlappingUris) ∧
    (∀ total' clusters', (∀ c, c ∈ clusters' ↔ c ∈ clusters) →
      (Report.of total' clusters').overlappingCertificates =
        (Report.of total clusters).overlappingCertificates ∧
      (Report.of total' clusters').overlappingResources =
        (Report.of total clusters).overlappingResources ∧
      (Report.of total' clusters').resources = (Report.of total clusters).resources) ∧
    ((Report.of total clusters).hasOverlaps = true ↔
      0 < (Report.of total clusters).overlappingCertificates) ∧
    ((Report.of total clusters).hasOverlaps = true ↔
      0 < (Report.of total clusters).overlappingResources) := by
  have hcertificates : (Report.of total clusters).overlappingCertificates =
      (memberPaths clusters).ncard := length_eraseDups clusters
  have huris : (Report.of total clusters).overlappingUris.length =
      (memberPaths clusters).ncard := by
    rw [overlappingUris, List.length_map]
    exact length_firstByPath clusters
  have hoverlaps : (Report.of total clusters).hasOverlaps = true ↔ clusters ≠ [] := by
    rw [hasOverlaps, Bool.not_eq_true', List.isEmpty_eq_false_iff]
    rfl
  refine ⟨fun f n => has_sharedResources_iff h, ?_, hcertificates, huris.trans hcertificates.symm,
    exists_forall₂_overlappingUris (.of total clusters),
    fun total' clusters' hmem => ⟨?_, ?_, ?_⟩, ?_, ?_⟩
  · exact (sharedResources clusters).size_eq_ncard
  · rw [hcertificates, ← memberPaths_congr hmem]
    exact length_eraseDups clusters'
  · exact congrArg ResourceSet.size (sharedResources_congr hmem)
  · exact sharedResources_congr hmem
  · rw [hoverlaps, hcertificates, ncard_memberPaths_pos_iff]
  · rw [hoverlaps]
    exact (size_sharedResources_pos_iff h).symm

/-- The overlaps below the trust anchor of a child with all AS numbers and others with some. -/
def overlapsOfAll (others : List (Nat × Range 32)) : List Cluster :=
  others.filterMap fun other => Cluster.of? (.ofResources "all.cer" .allAsn (Path.root.child 0))
    (.ofResources "some.cer" (.ofList [.asn other.2]) (Path.root.child other.1))

/-- Two overlaps, of which one is listed twice. -/
def repeatedOverlap : List Cluster :=
  overlapsOfAll [(1, ⟨11, 14, by decide, by decide⟩), (2, ⟨15, 19, by decide, by decide⟩),
    (1, ⟨11, 14, by decide, by decide⟩)]

/-- Two overlaps have three members in all, and repetitions count for nothing. -/
theorem of_exact_repeatedOverlap : (∀ c ∈ repeatedOverlap, c.IsMade) ∧
    repeatedOverlap.length = 3 ∧ (Report.of 4 repeatedOverlap).overlappingUris.length = 3 ∧
    {p | ∃ c ∈ repeatedOverlap, ∃ m ∈ c.members, m.path = p}.ncard = 3 ∧
    0 < (Report.of 4 repeatedOverlap).overlappingResources ∧
    (Report.of 4 (repeatedOverlap.reverse ++ repeatedOverlap)).overlappingResources =
      (Report.of 4 repeatedOverlap).overlappingResources := by
  have hmade : ∀ c ∈ repeatedOverlap, c.IsMade := by
    intro c hc
    obtain ⟨other, -, hc⟩ := List.mem_filterMap.1 hc
    exact ⟨_, _, hc⟩
  have hcount : (Report.of 4 repeatedOverlap).overlappingCertificates = 3 := by decide +kernel
  have hsame : ∀ c, c ∈ repeatedOverlap.reverse ++ repeatedOverlap ↔ c ∈ repeatedOverlap := by
    intro c
    rw [List.mem_append, List.mem_reverse, or_self]
  obtain ⟨-, -, hpaths, huris, -, hcongr, -, hoverlaps⟩ := of_exact 4 repeatedOverlap hmade
  exact ⟨hmade, by decide +kernel, huris.trans hcount, hpaths.symm.trans hcount,
    hoverlaps.1 (by decide +kernel), (hcongr 4 _ hsame).2.1⟩

end Report
end RpkiOverlap

import RpkiOverlap.Proofs.Overlap.Detection

/-! # Comparisons of entries in another order

The span of a trust anchor comes in no particular order.  A comparison looks at its entries in the
order in which they stand, and each entry only at those behind it, but what it finds does not
depend on that order when no two entries have one path:

* the candidates are the same pairs of paths (`perm_paths`), so there are as many in all and of
  every entry;
* the clusters are the same, and the order of paths leaves one way only to list them
  (`clustersOf_perm`);
* the same entries are discarded, each in its own place (`overloaded_perm`).

`detect_perm` puts these together.
-/
namespace RpkiOverlap

section
variable {limits : Limits} {entries entries' : List Entry}

theorem nodup_path_of_perm (hn : (entries.map (·.path)).Nodup) (h : entries.Perm entries') :
    (entries'.map (·.path)).Nodup :=
  (h.map _).nodup_iff.1 hn

/-! ## Candidates -/

namespace Candidate

theorem perm_paths (hn : (entries.map (·.path)).Nodup) (h : entries.Perm entries') :
    ((candidates entries).map paths).Perm ((candidates entries').map paths) := by
  have hn' := nodup_path_of_perm hn h
  refine (List.perm_ext_iff_of_nodup (nodup_paths hn) (nodup_paths hn')).2 fun q => ?_
  rw [mem_paths_iff hn, mem_paths_iff hn']
  simp only [h.mem_iff]

theorem length_candidates_perm (hn : (entries.map (·.path)).Nodup) (h : entries.Perm entries') :
    (candidates entries).length = (candidates entries').length := by
  have hlength := (perm_paths hn h).length_eq
  rwa [List.length_map, List.length_map] at hlength

/-- An entry takes part in as many candidates wherever the entries stand. -/
theorem pathDegree_perm (hn : (entries.map (·.path)).Nodup) (h : entries.Perm entries')
    (path : Path) : pathDegree entries path = pathDegree entries' path :=
  (perm_paths hn h).countP_eq _

end Candidate

namespace Scan

/-! ## Clusters -/

/-- Clusters in which neither comes later have the same pair of paths. -/
theorem paths_eq_of_le {k l : Cluster} (hkl : k.le l = true) (hlk : l.le k = true) :
    k.paths = l.paths := by
  have hsame : k.first.path.text = l.first.path.text ∧ k.second.path.text = l.second.path.text := by
    rcases Cluster.le_iff.1 hkl with hlt | ⟨hfirst, hsecond⟩
    · rcases Cluster.le_iff.1 hlk with hgt | ⟨heq, -⟩
      · exact absurd hgt (lt_asymm hlt)
      · exact absurd heq.symm (ne_of_lt hlt)
    · rcases Cluster.le_iff.1 hlk with hgt | ⟨-, hsecond'⟩
      · exact absurd hfirst.symm (ne_of_lt hgt)
      · exact ⟨hfirst, le_antisymm hsecond hsecond'⟩
  have hfirst : k.first.path = l.first.path := congrArg Path.mk hsame.1
  have hsecond : k.second.path = l.second.path := congrArg Path.mk hsame.2
  rw [Cluster.paths, Cluster.paths, hfirst, hsecond]

/-- The clusters are the same, in the same order. -/
theorem clustersOf_perm (hn : (entries.map (·.path)).Nodup) (h : entries.Perm entries') :
    clustersOf limits (degree (candidates entries)) (candidates entries) =
      clustersOf limits (degree (candidates entries')) (candidates entries') := by
  have hn' := nodup_path_of_perm hn h
  have hpaths := nodup_clustersOf limits hn (degree (candidates entries))
  have hpaths' := nodup_clustersOf limits hn' (degree (candidates entries'))
  have hperm := (List.perm_ext_iff_of_nodup hpaths.of_map hpaths'.of_map).2 fun k => by
    rw [mem_clustersOf_iff hn, mem_clustersOf_iff hn']
    simp only [h.mem_iff, Candidate.pathDegree_perm hn h]
  refine hperm.eq_of_pairwise ?_ (pairwise_clustersOf _ _) (pairwise_clustersOf _ _)
  -- paths tell the clusters of a comparison apart, so no two of them can change places
  intro k l hk hl hkl hlk
  exact List.inj_on_of_nodup_map hpaths hk (hperm.mem_iff.2 hl) (paths_eq_of_le hkl hlk)

/-! ## Discarded entries -/

theorem nodup_overloaded (hn : (entries.map (·.path)).Nodup) (count : Nat → Nat) :
    ((overloaded limits entries count).map Prod.fst).Nodup := by
  have hsublist : ((overloaded limits entries count).map Prod.fst).Sublist entries := by
    have h := (List.filter_sublist (l := entries.zipIdx)
      (p := fun a => isOverloaded limits count a.2)).map Prod.fst
    rwa [List.zipIdx_map_fst] at h
  exact hn.of_map.sublist hsublist

theorem overloaded_perm (hn : (entries.map (·.path)).Nodup) (h : entries.Perm entries') :
    ((overloaded limits entries (degree (candidates entries))).map Prod.fst).Perm
      ((overloaded limits entries' (degree (candidates entries'))).map Prod.fst) := by
  have hn' := nodup_path_of_perm hn h
  refine (List.perm_ext_iff_of_nodup (nodup_overloaded hn _) (nodup_overloaded hn' _)).2 fun a => ?_
  rw [mem_overloaded_iff hn, mem_overloaded_iff hn', h.mem_iff, Candidate.pathDegree_perm hn h]

end Scan

end

/-! ## The result -/

/-- **The order of entries does not matter.**  When no two entries have one path, a comparison of
the same entries in any other order is given up with it, or finds as many candidates and the same
clusters in the same order, and discards the same entries. -/
theorem detect_perm (limits : Limits) (entries entries' : List Entry)
    (hn : (entries.map (·.path)).Nodup) (h : entries.Perm entries') :
    GivesUp limits entries (detect limits entries).1 ∧
      GivesUp limits entries' (detect limits entries').1 ∨
    ∃ scan scan', (detect limits entries).1 = .ok scan ∧ (detect limits entries').1 = .ok scan' ∧
      scan'.candidateCount = scan.candidateCount ∧ scan'.clusters = scan.clusters ∧
      scan'.discarded.Perm scan.discarded := by
  have hlength := Candidate.length_candidates_perm hn h
  rcases Nat.lt_or_ge limits.total (candidates entries).length with hlt | hle
  · exact .inl ⟨givesUp_of_lt hlt, givesUp_of_lt (hlength ▸ hlt)⟩
  · have hle' : (candidates entries').length ≤ limits.total := hlength ▸ hle
    refine .inr ⟨_, _, detect_of_le hle, detect_of_le hle', hlength.symm, ?_, ?_⟩
    · exact (Scan.clustersOf_perm hn h).symm
    · exact (Scan.overloaded_perm hn h).symm

/-- The entry below the trust anchor with an index, for a range of AS numbers. -/
def asnChild (index : Nat) (asns : Range 32) : Entry :=
  .ofResources "a.cer" (.ofList [.asn asns]) (Path.root.child index)

/-- Five entries of which the first overlaps the next two, and the last two each other. -/
def fiveChildren : List Entry :=
  [asnChild 0 ⟨1, 9, by decide, by decide⟩, asnChild 1 ⟨1, 2, by decide, by decide⟩,
    asnChild 2 ⟨8, 9, by decide, by decide⟩, asnChild 3 ⟨20, 30, by decide, by decide⟩,
    asnChild 4 ⟨25, 25, by decide, by decide⟩]

/-- When one overlap is allowed for each entry, the first one is discarded and the last two make
the only cluster, also when the entries are compared in the opposite order. -/
theorem detect_perm_fiveChildren :
    (fiveChildren.map (·.path)).Nodup ∧ fiveChildren.Perm fiveChildren.reverse ∧
    ∃ scan, (detect ⟨1, 3⟩ fiveChildren.reverse).1 = .ok scan ∧ scan.candidateCount = 3 ∧
      scan.clusters = [⟨asnChild 3 ⟨20, 30, by decide, by decide⟩,
        asnChild 4 ⟨25, 25, by decide, by decide⟩,
        .ofList [.asn ⟨25, 25, by decide, by decide⟩]⟩] ∧
      scan.discarded.Perm [asnChild 0 ⟨1, 9, by decide, by decide⟩] := by
  have hn : (fiveChildren.map (·.path)).Nodup := by decide
  have hperm : fiveChildren.Perm fiveChildren.reverse := (List.reverse_perm _).symm
  have hscan : (detect ⟨1, 3⟩ fiveChildren).1.toOption = some
      ⟨[⟨asnChild 3 ⟨20, 30, by decide, by decide⟩, asnChild 4 ⟨25, 25, by decide, by decide⟩,
        .ofList [.asn ⟨25, 25, by decide, by decide⟩]⟩],
        [asnChild 0 ⟨1, 9, by decide, by decide⟩], 3⟩ := by decide +kernel
  refine ⟨hn, hperm, ?_⟩
  rcases detect_perm ⟨1, 3⟩ _ _ hn hperm with
    ⟨⟨total, herror, -⟩, -⟩ | ⟨scan, scan', hok, hok', hcount, hclusters, hdiscarded⟩
  · rw [herror] at hscan
    cases hscan
  · rw [hok] at hscan
    obtain rfl := Option.some.inj hscan
    exact ⟨scan', hok', hcount, hclusters, hdiscarded⟩

end RpkiOverlap

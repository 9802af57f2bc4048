import Mathlib.Data.List.Perm.Basic
import RpkiOverlap.Proofs.Overlap.Clusters

/-! # The result of a comparison

What a comparison of any entries ought to find, said by their positions.  Paths and URIs may be
repeated, so a position is all that tells two entries apart.

* Two positions *overlap* when neither entry lies above the other and both hold a number of one
  family (`overlapPairs`).  The candidates are these pairs, and `overlapCount` is the number of
  candidates of an entry (`overlapPairs_eq`, `degree_eq_overlapCount`).
* A pair of which neither position is in too many pairs makes one cluster, unless the two entries
  are one and the same (`exists_forall₂_clustersOf`).  The second look at the pair, when the cluster
  is made, never disagrees with the first.
* A discarded entry is reported once, with its number of overlaps (`reportsDiscarded`,
  `discardReports_append`).

`detect_exact` puts these together.
-/
namespace RpkiOverlap

/-! ## Pairs of positions -/

/-- The positions of two entries, the earlier first, of which neither lies above the other and
which have a number of one family in common. -/
def overlapPairs (entries : List Entry) : Set (Nat × Nat) :=
  {p | p.1 < p.2 ∧ ∃ a b, entries[p.1]? = some a ∧ entries[p.2]? = some b ∧
    a.path.related b.path = false ∧ ∃ f n, a.resources.Has f n ∧ b.resources.Has f n}

/-- The pairs that a position takes part in. -/
def overlapPairsOf (entries : List Entry) (i : Nat) : Set (Nat × Nat) :=
  {p ∈ overlapPairs entries | p.1 = i ∨ p.2 = i}

/-- How many pairs a position takes part in. -/
noncomputable def overlapCount (entries : List Entry) (i : Nat) : Nat :=
  (overlapPairsOf entries i).ncard

theorem isCandidate_iff {a b : Entry} : isCandidate a b = true ↔
    a.path.related b.path = false ∧ ∃ f n, a.resources.Has f n ∧ b.resources.Has f n := by
  rw [isCandidate, Bool.and_eq_true, ResourceSet.intersects_iff_has, Bool.not_eq_true']

namespace Candidate
variable {entries : List Entry}

/-- The positions of the two entries. -/
def positions (p : Candidate) : Nat × Nat := (p.1.2, p.2.2)

theorem mem_positions_iff {q : Nat × Nat} :
    q ∈ (candidates entries).map positions ↔ q ∈ overlapPairs entries := by
  simp only [List.mem_map, mem_candidates_iff, isCandidate_iff]
  constructor
  · rintro ⟨⟨⟨a, i⟩, b, j⟩, ⟨hlt, ha, hb, hcand⟩, rfl⟩
    exact ⟨hlt, a, b, ha, hb, hcand⟩
  · rintro ⟨hlt, a, b, ha, hb, hcand⟩
    exact ⟨((a, q.1), (b, q.2)), ⟨hlt, ha, hb, hcand⟩, rfl⟩

theorem nodup_positions (entries : List Entry) : ((candidates entries).map positions).Nodup := by
  refine (nodup_candidates entries).map_on fun p hp q hq h => ?_
  obtain ⟨-, hp1, hp2, -⟩ := mem_candidates_iff.1 hp
  obtain ⟨-, hq1, hq2, -⟩ := mem_candidates_iff.1 hq
  obtain ⟨h1, h2⟩ := Prod.mk.inj h
  rw [h1, hq1, Option.some.injEq] at hp1
  rw [h2, hq2, Option.some.injEq] at hp2
  exact Prod.ext (Prod.ext hp1.symm h1) (Prod.ext hp2.symm h2)

theorem overlapPairs_eq (entries : List Entry) :
    overlapPairs entries = {q | q ∈ (candidates entries).map positions} :=
  Set.ext fun _ => mem_positions_iff.symm

theorem finite_overlapPairs (entries : List Entry) : (overlapPairs entries).Finite := by
  rw [overlapPairs_eq]
  exact List.finite_toSet _

/-- There are as many candidates as pairs of positions. -/
theorem ncard_overlapPairs (entries : List Entry) :
    (overlapPairs entries).ncard = (candidates entries).length := by
  rw [overlapPairs_eq, ← length_eq_ncard (nodup_positions entries), List.length_map]

/-- An entry takes part in as many candidates as pairs have its position. -/
theorem degree_eq_overlapCount (entries : List Entry) (i : Nat) :
    Scan.degree (candidates entries) i = overlapCount entries i := by
  have hcount := countP_eq_ncard (nodup_positions entries) fun q => q.1 = i ∨ q.2 = i
  rw [List.countP_map] at hcount
  simp only [mem_positions_iff] at hcount
  rw [overlapCount, overlapPairsOf, ← hcount, Scan.degree]
  refine List.countP_congr fun p _ => ?_
  simp only [Bool.or_eq_true, beq_iff_eq, Function.comp_apply, positions]
  exact decide_eq_true_iff.symm

end Candidate

/-! ## Clusters -/

namespace Cluster

/-- A cluster of two entries: they are its members, in the order of their paths, and it holds
exactly what they have in common, which is something. -/
structure Joins (k : Cluster) (a b : Entry) : Prop where
  members : k.first = a ∧ k.second = b ∨ k.first = b ∧ k.second = a
  ordered : k.first.path.text ≤ k.second.path.text
  exact : ∀ f n, k.intersection.Has f n ↔ a.resources.Has f n ∧ b.resources.Has f n
  nonempty : ∃ f n, k.intersection.Has f n

/-- The second look at a candidate finds what the first one found. -/
theorem exists_of?_joins {a b : Entry} (hcand : isCandidate a b = true) (hkey : a.key ≠ b.key) :
    ∃ k, of? a b = some k ∧ k.Joins a b := by
  have hexact : ∀ f n, (a.resources.inter b.resources).Has f n ↔
      a.resources.Has f n ∧ b.resources.Has f n := fun _ _ => ResourceSet.has_inter
  have hshared : ∃ f n, (a.resources.inter b.resources).Has f n := by
    obtain ⟨f, n, h⟩ := (isCandidate_iff.1 hcand).2
    exact ⟨f, n, ResourceSet.has_inter.2 h⟩
  rw [of?_of_isCandidate hcand hkey]
  split
  · rename_i hle
    exact ⟨_, rfl, .inl ⟨rfl, rfl⟩, of_decide_eq_true hle, hexact, hshared⟩
  · rename_i hle
    rw [Path.le, decide_eq_true_eq, not_le] at hle
    exact ⟨_, rfl, .inr ⟨rfl, rfl⟩, le_of_lt hle, hexact, hshared⟩

theorem of?_of_key_eq {a b : Entry} (h : a.key = b.key) : of? a b = none := by
  rw [of?, if_pos (.inr h)]

/-- A cluster of the entries at two positions. -/
def JoinsAt (entries : List Entry) (p : Nat × Nat) (k : Cluster) : Prop :=
  ∃ a b, entries[p.1]? = some a ∧ entries[p.2]? = some b ∧ k.Joins a b

/-- Clusters are ordered by the path of the first member, and then by that of the second. -/
theorem le_iff {k l : Cluster} : k.le l = true ↔ k.first.path.text < l.first.path.text ∨
    k.first.path.text = l.first.path.text ∧ k.second.path.text ≤ l.second.path.text := by
  have horder : ∀ p q : Path, p.order q = compare p.text q.text := fun _ _ => rfl
  rw [le, Ordering.isLE_then_iff_or, horder, horder, compare_lt_iff_lt, compare_eq_iff_eq,
    Ordering.isLE_iff_eq_lt_or_eq_eq, compare_lt_iff_lt, compare_eq_iff_eq, ← le_iff_lt_or_eq]

end Cluster

namespace Scan
variable {limits : Limits} {entries : List Entry}

/-- The pairs that make clusters: neither position is in too many pairs, and the two entries are
not one and the same. -/
def keptPairs (limits : Limits) (entries : List Entry) : Set (Nat × Nat) :=
  {p ∈ overlapPairs entries | overlapCount entries p.1 ≤ limits.perCertificate ∧
    overlapCount entries p.2 ≤ limits.perCertificate ∧
    entries[p.1]?.map Entry.key ≠ entries[p.2]?.map Entry.key}

/-- Candidates make a cluster each, but for those of one and the same entry. -/
theorem forall₂_joinsAt {pairs : List Candidate} (h : ∀ p ∈ pairs, p ∈ candidates entries) :
    List.Forall₂ (Cluster.JoinsAt entries)
      ((pairs.filter fun p => p.1.1.key ≠ p.2.1.key).map Candidate.positions)
      (pairs.filterMap fun p => Cluster.of? p.1.1 p.2.1) := by
  induction pairs with
  | nil => exact .nil
  | cons p pairs ih =>
    obtain ⟨hp, hpairs⟩ := List.forall_mem_cons.1 h
    by_cases hkey : p.1.1.key = p.2.1.key
    · rw [List.filter_cons_of_neg (by simpa using hkey), List.filterMap_cons,
        Cluster.of?_of_key_eq hkey]
      exact ih hpairs
    · -- the second look at the pair never drops it
      obtain ⟨-, ha, hb, hcand⟩ := mem_candidates_iff.1 hp
      obtain ⟨k, hk, hjoins⟩ := Cluster.exists_of?_joins hcand hkey
      rw [List.filter_cons_of_pos (by simpa using hkey), List.filterMap_cons, hk]
      exact .cons ⟨_, _, ha, hb, hjoins⟩ (ih hpairs)

theorem isOverloaded_eq_false_iff_overlapCount {i : Nat} :
    isOverloaded limits (degree (candidates entries)) i = false ↔
      overlapCount entries i ≤ limits.perCertificate := by
  rw [isOverloaded, Candidate.degree_eq_overlapCount]
  simp

theorem mem_keptPairs_iff {q : Nat × Nat} :
    q ∈ keptPairs limits entries ↔ q ∈ ((((candidates entries).filter fun p =>
      !isOverloaded limits (degree (candidates entries)) p.1.2 &&
        !isOverloaded limits (degree (candidates entries)) p.2.2).filter
          fun p => p.1.1.key ≠ p.2.1.key).map Candidate.positions) := by
  simp only [keptPairs, ← Candidate.mem_positions_iff, Set.mem_ofPred_eq, List.mem_map,
    List.mem_filter, Bool.and_eq_true, Bool.not_eq_true',
    isOverloaded_eq_false_iff_overlapCount, decide_eq_true_eq]
  constructor
  · rintro ⟨⟨p, hp, rfl⟩, hfirst, hsecond, hkey⟩
    obtain ⟨-, ha, hb, -⟩ := mem_candidates_iff.1 hp
    refine ⟨p, ⟨⟨hp, hfirst, hsecond⟩, fun heq => hkey ?_⟩, rfl⟩
    rw [Candidate.positions, ha, hb, Option.map_some, Option.map_some, heq]
  · rintro ⟨p, ⟨⟨hp, hfirst, hsecond⟩, hkey⟩, rfl⟩
    obtain ⟨-, ha, hb, -⟩ := mem_candidates_iff.1 hp
    refine ⟨⟨p, hp, rfl⟩, hfirst, hsecond, fun heq => hkey ?_⟩
    rwa [Candidate.positions, ha, hb, Option.map_some, Option.map_some, Option.some.injEq] at heq

variable (limits entries) in
/-- The pairs that make clusters can be listed in the order of their clusters. -/
theorem exists_forall₂_clustersOf : ∃ pairs : List (Nat × Nat), pairs.Nodup ∧
    (∀ p, p ∈ pairs ↔ p ∈ keptPairs limits entries) ∧
    List.Forall₂ (Cluster.JoinsAt entries) pairs
      (clustersOf limits (degree (candidates entries)) (candidates entries)) := by
  have hcandidates : ∀ p ∈ (candidates entries).filter fun p =>
      !isOverloaded limits (degree (candidates entries)) p.1.2 &&
        !isOverloaded limits (degree (candidates entries)) p.2.2, p ∈ candidates entries :=
    fun p hp => (List.mem_filter.1 hp).1
  have hunsorted := forall₂_joinsAt hcandidates
  -- sorting permutes the clusters, and the pairs can be permuted along with them
  obtain ⟨pairs, hjoins, hperm⟩ :=
    List.perm_comp_forall₂ (List.mergeSort_perm _ Cluster.le) hunsorted.flip
  refine ⟨pairs, ?_, fun p => ?_, hjoins.flip⟩
  · rw [hperm.nodup_iff]
    exact (Candidate.nodup_positions entries).sublist
      ((List.filter_sublist.trans List.filter_sublist).map _)
  · rw [hperm.mem_iff, mem_keptPairs_iff]

/-! ## Reports -/

/-- The wording of the report on a discarded entry. -/
def discardedMessage : String := "too many overlaps for certificate, discarding them"

/-- The reports on discarded entries. -/
def discardReports (events : List Event) : List Event :=
  events.filter fun e => e.field? "message" = some discardedMessage

/-- A report on the discarding of an entry: it names the entry, says how many overlaps it has, and
lists the URIs of entries that it overlaps, up to fifty. -/
structure ReportsDiscarded (entries : List Entry) (a : Placed) (e : Event) : Prop where
  level : e.level = .error
  uri : e.field? "uri" = some a.1.uri
  path : e.field? "path" = some a.1.path.text
  count : e.field? "overlap_count" = some (toString (overlapCount entries a.2))
  involved : ∃ uris, e.field? "involved" = some (", ".intercalate uris) ∧
    uris.length = min maxPrintedUris (overlapCount entries a.2) ∧
    ∀ uri ∈ uris, ∃ j b, ((j, a.2) ∈ overlapPairs entries ∨ (a.2, j) ∈ overlapPairs entries) ∧
      entries[j]? = some b ∧ b.uri = uri

theorem length_involved (entries : List Entry) (i : Nat) :
    (involved (candidates entries) i).length = overlapCount entries i := by
  rw [← Candidate.degree_eq_overlapCount, involved, List.length_filterMap_eq_countP, degree]
  refine List.countP_congr fun p _ => ?_
  by_cases hfirst : p.1.2 = i
  · simp [hfirst]
  · by_cases hsecond : p.2.2 = i
    · simp [hfirst, hsecond]
    · simp [hfirst, hsecond]

/-- Only entries that overlap an entry are named in its report. -/
theorem exists_of_mem_involved {i : Nat} {uri : String}
    (h : uri ∈ involved (candidates entries) i) :
    ∃ j b, ((j, i) ∈ overlapPairs entries ∨ (i, j) ∈ overlapPairs entries) ∧
      entries[j]? = some b ∧ b.uri = uri := by
  obtain ⟨p, hp, huri⟩ := List.mem_filterMap.1 h
  have hpair : p.positions ∈ overlapPairs entries :=
    Candidate.mem_positions_iff.1 (List.mem_map_of_mem hp)
  obtain ⟨-, ha, hb, -⟩ := mem_candidates_iff.1 hp
  by_cases hfirst : p.1.2 = i
  · rw [if_pos hfirst, Option.some.injEq] at huri
    exact ⟨p.2.2, p.2.1, .inr (hfirst ▸ hpair), hb, huri⟩
  · rw [if_neg hfirst, Option.ite_none_right_eq_some, Option.some.injEq] at huri
    exact ⟨p.1.2, p.1.1, .inl (huri.1 ▸ hpair), ha, huri.2⟩

theorem reportsDiscarded (entries : List Entry) (a : Placed) :
    ReportsDiscarded entries a
      (discardedEvent (degree (candidates entries)) (candidates entries) a) where
  level := rfl
  uri := rfl
  path := rfl
  count := by
    rw [← Candidate.degree_eq_overlapCount]
    rfl
  involved := by
    refine ⟨(involved (candidates entries) a.2).take maxPrintedUris, rfl, ?_, fun uri huri => ?_⟩
    · rw [List.length_take, length_involved]
    · exact exists_of_mem_involved (List.mem_of_mem_take huri)

/-- Of what a finished comparison reports, the reports on discarded entries are all but the last. -/
theorem discardReports_append {count : Nat → Nat} {pairs : List Candidate} {placed : List Placed}
    {scan : Scan} :
    discardReports (placed.map (discardedEvent count pairs) ++ [finishedEvent entries scan]) =
      placed.map (discardedEvent count pairs) := by
  have hfinished : discardReports [finishedEvent entries scan] = [] := rfl
  rw [discardReports, List.filter_append, ← discardReports, ← discardReports, hfinished,
    List.append_nil, discardReports, List.filter_eq_self]
  intro e he
  obtain ⟨a, -, rfl⟩ := List.mem_map.1 he
  rfl

/-! ## The result -/

/-- A comparison that says what there is to say, and nothing else. -/
structure Exact (limits : Limits) (entries : List Entry) (scan : Scan) : Prop where
  /-- All pairs are counted, also those that are dropped. -/
  counted : scan.candidateCount = (overlapPairs entries).ncard
  /-- Discarded are the entries in too many pairs, in their order. -/
  discarded : scan.discarded = (entries.zipIdx.filter fun a =>
    limits.perCertificate < overlapCount entries a.2).map Prod.fst
  /-- Each pair that is kept makes one cluster, and there are no others. -/
  clusters : ∃ pairs : List (Nat × Nat), pairs.Nodup ∧
    (∀ p, p ∈ pairs ↔ p ∈ keptPairs limits entries) ∧
    List.Forall₂ (Cluster.JoinsAt entries) pairs scan.clusters
  /-- Clusters are in the order of the first path, and then of the second. -/
  ordered : scan.clusters.Pairwise fun k l => k.first.path.text < l.first.path.text ∨
    k.first.path.text = l.first.path.text ∧ k.second.path.text ≤ l.second.path.text

theorem overloaded_eq (limits : Limits) (entries : List Entry) :
    overloaded limits entries (degree (candidates entries)) =
      entries.zipIdx.filter fun a => limits.perCertificate < overlapCount entries a.2 := by
  refine List.filter_congr fun a _ => ?_
  rw [isOverloaded, Candidate.degree_eq_overlapCount]

end Scan

/-- A comparison that is given up names the limit and a number of pairs above it.  Which number that
is depends on the rows that are skipped when the limit has been passed already. -/
def GivesUp (limits : Limits) (entries : List Entry) (result : Except Fault Scan) : Prop :=
  ∃ total, result = .error (.overlapBudgetExceeded total limits.total) ∧
    limits.total < total ∧ total ≤ (overlapPairs entries).ncard

theorem givesUp_of_lt {limits : Limits} {entries : List Entry}
    (h : limits.total < (candidates entries).length) :
    GivesUp limits entries (detect limits entries).1 := by
  refine ⟨_, detect_of_lt h, h, ?_⟩
  rw [Candidate.ncard_overlapPairs]

/-- **A comparison is exact.**  It is given up when more pairs overlap than the limit allows, and
reports no entry as discarded then.  Otherwise it counts the pairs, discards the entries in too many
of them, reports each of those once, and makes one cluster of each pair that is left, unless it is
of one and the same entry. -/
theorem detect_exact (limits : Limits) (entries : List Entry) :
    (overlapPairs entries).Finite ∧
    (limits.total < (overlapPairs entries).ncard →
      GivesUp limits entries (detect limits entries).1 ∧
      Scan.discardReports (detect limits entries).2 = []) ∧
    ((overlapPairs entries).ncard ≤ limits.total →
      ∃ scan, (detect limits entries).1 = .ok scan ∧ Scan.Exact limits entries scan ∧
        List.Forall₂ (Scan.ReportsDiscarded entries)
          (entries.zipIdx.filter fun a => limits.perCertificate < overlapCount entries a.2)
          (Scan.discardReports (detect limits entries).2)) := by
  rw [Candidate.ncard_overlapPairs]
  refine ⟨Candidate.finite_overlapPairs entries, fun hlt => ?_, fun hle => ?_⟩
  · refine ⟨givesUp_of_lt hlt, ?_⟩
    rw [detect, Scan.conclude, if_pos hlt]
    rfl
  · refine ⟨_, detect_of_le hle, ⟨?_, ?_, ?_, ?_⟩, ?_⟩
    · exact (Candidate.ncard_overlapPairs entries).symm
    · exact congrArg (List.map Prod.fst) (Scan.overloaded_eq limits entries)
    · exact Scan.exists_forall₂_clustersOf limits entries
    · exact (Scan.pairwise_clustersOf _ _).imp Cluster.le_iff.1
    · rw [detect, Scan.conclude, if_neg (Nat.not_lt.2 hle), Scan.discardReports_append,
        Scan.overloaded_eq, List.forall₂_map_right_iff, List.forall₂_same]
      exact fun a _ => Scan.reportsDiscarded entries a

end RpkiOverlap

import Mathlib.Data.Set.Card
import Mathlib.Data.Sym.Sym2
import RpkiOverlap.Proofs.Overlap.Candidates
import RpkiOverlap.Proofs.Resource.Algebra

/-! # Candidates as pairs of paths

Where no two entries have one path, as in the span of a trust anchor, a candidate is known by the
unordered pair of its entries' paths (`Candidate.paths`):

* `nodup_paths` says that no two candidates have one pair of paths;
* `mem_paths_iff` says which pairs of paths are those of a candidate;
* `degree_eq_pathDegree` says that an entry takes part in as many candidates as pairs have its
  path.

So candidates can be counted as pairs of paths (`length_eq_ncard`, `countP_eq_ncard`).
-/
namespace RpkiOverlap

/-- Whether two entries are a candidate does not depend on which comes first. -/
theorem isCandidate_comm (a b : Entry) : isCandidate a b = isCandidate b a := by
  have hrelated : a.path.related b.path = b.path.related a.path := by
    unfold Path.related
    rw [Bool.or_comm, bne_comm]
  rw [isCandidate, isCandidate, hrelated, ResourceSet.intersects_comm]

namespace Candidate

/-- The paths of the two entries, in no order. -/
def paths (p : Candidate) : Sym2 Path := s(p.1.1.path, p.2.1.path)

/-- How many candidates among entries have an entry at a path. -/
def pathDegree (entries : List Entry) (path : Path) : Nat :=
  ((candidates entries).map paths).countP (path ∈ ·)

section
variable {entries : List Entry} (hn : (entries.map (·.path)).Nodup)
include hn

/-- The path of an entry determines its position. -/
theorem position_unique {i j : Nat} {a b : Entry} (ha : entries[i]? = some a)
    (hb : entries[j]? = some b) (h : a.path = b.path) : i = j := by
  have hi : (entries.map (·.path))[i]? = some a.path := by simp [ha]
  have hj : (entries.map (·.path))[j]? = some a.path := by simp [hb, h]
  obtain ⟨hlt, _⟩ := List.getElem?_eq_some_iff.1 hi
  exact (List.getElem?_inj hlt hn).1 (hi.trans hj.symm)

theorem eq_of_paths_eq {p q : Candidate} (hp : p ∈ candidates entries)
    (hq : q ∈ candidates entries) (h : p.paths = q.paths) : p = q := by
  obtain ⟨hpos, hp1, hp2, _⟩ := mem_candidates_iff.1 hp
  obtain ⟨hpos', hq1, hq2, _⟩ := mem_candidates_iff.1 hq
  rcases Sym2.eq_iff.1 h with ⟨h1, h2⟩ | ⟨h1, h2⟩
  · have hfirst : p.1.2 = q.1.2 := position_unique hn hp1 hq1 h1
    have hsecond : p.2.2 = q.2.2 := position_unique hn hp2 hq2 h2
    rw [hfirst, hq1, Option.some.injEq] at hp1
    rw [hsecond, hq2, Option.some.injEq] at hp2
    exact Prod.ext (Prod.ext hp1.symm hfirst) (Prod.ext hp2.symm hsecond)
  · -- the positions would be in both orders
    have hfirst : p.1.2 = q.2.2 := position_unique hn hp1 hq2 h1
    have hsecond : p.2.2 = q.1.2 := position_unique hn hp2 hq1 h2
    omega

theorem nodup_paths : ((candidates entries).map paths).Nodup :=
  (nodup_candidates entries).map_on fun _ hp _ hq => eq_of_paths_eq hn hp hq

/-- The pairs of paths of candidates are those of distinct entries that are a candidate. -/
theorem mem_paths_iff {q : Sym2 Path} :
    q ∈ (candidates entries).map paths ↔ ∃ a ∈ entries, ∃ b ∈ entries, a.path ≠ b.path ∧
      isCandidate a b = true ∧ q = s(a.path, b.path) := by
  rw [List.mem_map]
  constructor
  · rintro ⟨p, hp, rfl⟩
    obtain ⟨hpos, h1, h2, hcand⟩ := mem_candidates_iff.1 hp
    refine ⟨p.1.1, List.mem_of_getElem? h1, p.2.1, List.mem_of_getElem? h2, ?_, hcand, rfl⟩
    intro heq
    exact Nat.ne_of_lt hpos (position_unique hn h1 h2 heq)
  · rintro ⟨a, ha, b, hb, hne, hcand, rfl⟩
    obtain ⟨i, hi⟩ := List.getElem?_of_mem ha
    obtain ⟨j, hj⟩ := List.getElem?_of_mem hb
    rcases Nat.lt_trichotomy i j with hij | rfl | hij
    · exact ⟨((a, i), (b, j)), mem_candidates_iff.2 ⟨hij, hi, hj, hcand⟩, rfl⟩
    · rw [hi, Option.some.injEq] at hj
      exact absurd (congrArg Entry.path hj) hne
    · rw [isCandidate_comm] at hcand
      exact ⟨((b, j), (a, i)), mem_candidates_iff.2 ⟨hij, hj, hi, hcand⟩, Sym2.eq_swap⟩

/-- An entry takes part in as many candidates as there are pairs of paths with its path. -/
theorem degree_eq_pathDegree {i : Nat} {a : Entry} (ha : entries[i]? = some a) :
    Scan.degree (candidates entries) i = pathDegree entries a.path := by
  rw [Scan.degree, pathDegree, List.countP_map]
  refine List.countP_congr fun p hp => ?_
  obtain ⟨_, h1, h2, _⟩ := mem_candidates_iff.1 hp
  simp only [Bool.or_eq_true, beq_iff_eq, Function.comp_apply, decide_eq_true_eq, paths,
    Sym2.mem_iff]
  constructor
  · rintro (h | h)
    · rw [h, ha, Option.some.injEq] at h1
      exact .inl (congrArg Entry.path h1)
    · rw [h, ha, Option.some.injEq] at h2
      exact .inr (congrArg Entry.path h2)
  · rintro (h | h)
    · exact .inl (position_unique hn ha h1 h).symm
    · exact .inr (position_unique hn ha h2 h).symm

end

end Candidate

/-! ## Lists as sets -/

section
variable {α : Type} [DecidableEq α] {l : List α}

theorem length_eq_ncard (hl : l.Nodup) : l.length = {x | x ∈ l}.ncard := by
  rw [← List.toFinset_card_of_nodup hl, ← Set.ncard_coe_finset]
  simp

theorem countP_eq_ncard (hl : l.Nodup) (p : α → Prop) [DecidablePred p] :
    l.countP (fun x => p x) = {x | x ∈ l ∧ p x}.ncard := by
  rw [List.countP_eq_length_filter, length_eq_ncard (hl.filter _)]
  simp

end

end RpkiOverlap

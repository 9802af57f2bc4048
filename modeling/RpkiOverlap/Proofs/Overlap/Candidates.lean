import Mathlib.Algebra.BigOperators.Fin
import Mathlib.Data.List.FinRange
import RpkiOverlap.Overlap.Detection

/-! # Candidates by position

A candidate is a pair of entries with their positions.  This module says which pairs are found
(`mem_candidates_iff`), and that each is found once (`nodup_candidates`).  The number of
candidates is the sum over the rows (`length_candidates`), and so is the number of candidates that
an entry takes part in (`degree_candidates`): a row has its own position first in all its
candidates, and only later positions second (`degree_row`).
-/
namespace RpkiOverlap

theorem mem_drop_zipIdx {α : Type} {l : List α} {k : Nat} {b : α × Nat} :
    b ∈ l.zipIdx.drop k ↔ k ≤ b.2 ∧ l[b.2]? = some b.1 := by
  rw [List.mem_iff_getElem?]
  simp only [List.getElem?_drop, List.getElem?_zipIdx, Nat.zero_add, Option.map_eq_some_iff]
  constructor
  · rintro ⟨m, a, hm, rfl⟩
    exact ⟨Nat.le_add_right k m, hm⟩
  · rintro ⟨hk, hb⟩
    refine ⟨b.2 - k, b.1, ?_, ?_⟩
    · rw [Nat.add_sub_of_le hk]
      exact hb
    · rw [Nat.add_sub_of_le hk]

theorem row_eq {entries : List Entry} {i : Nat} (h : i < entries.length) :
    row entries i = ((entries.zipIdx.drop (i + 1)).filter fun b =>
      isCandidate entries[i] b.1).map fun b => ((entries[i], i), b) := by
  have hlen : i < entries.zipIdx.length := by simpa using h
  rw [row, List.drop_eq_getElem_cons hlen, List.getElem_zipIdx]
  simp

theorem row_eq_nil {entries : List Entry} {i : Nat} (h : entries.length ≤ i) :
    row entries i = [] := by
  rw [row, List.drop_eq_nil_of_le (by simpa using h)]

/-- A row has the candidates of its position with the later ones. -/
theorem mem_row_iff {entries : List Entry} {i : Nat} {p : Candidate} :
    p ∈ row entries i ↔ p.1.2 = i ∧ i < p.2.2 ∧ entries[p.1.2]? = some p.1.1 ∧
      entries[p.2.2]? = some p.2.1 ∧ isCandidate p.1.1 p.2.1 = true := by
  obtain ⟨⟨a, k⟩, b⟩ := p
  by_cases h : i < entries.length
  · rw [row_eq h]
    simp only [List.mem_map, List.mem_filter, mem_drop_zipIdx, Prod.mk.injEq]
    constructor
    · rintro ⟨b, ⟨⟨hlt, hb⟩, hcand⟩, ⟨rfl, rfl⟩, rfl⟩
      exact ⟨rfl, hlt, List.getElem?_eq_getElem h, hb, hcand⟩
    · rintro ⟨rfl, hlt, ha, hb, hcand⟩
      rw [List.getElem?_eq_getElem h, Option.some.injEq] at ha
      rw [← ha] at hcand
      exact ⟨b, ⟨⟨hlt, hb⟩, hcand⟩, ⟨ha, rfl⟩, rfl⟩
  · rw [row_eq_nil (Nat.not_lt.1 h)]
    simp only [List.not_mem_nil, false_iff]
    rintro ⟨rfl, _, ha, _⟩
    exact h (List.getElem?_eq_some_iff.1 ha).1

theorem mem_candidates_iff {entries : List Entry} {p : Candidate} :
    p ∈ candidates entries ↔ p.1.2 < p.2.2 ∧ entries[p.1.2]? = some p.1.1 ∧
      entries[p.2.2]? = some p.2.1 ∧ isCandidate p.1.1 p.2.1 = true := by
  simp only [candidates, List.mem_flatMap, List.mem_range, mem_row_iff]
  constructor
  · rintro ⟨_, _, rfl, h⟩
    exact h
  · intro h
    exact ⟨_, (List.getElem?_eq_some_iff.1 h.2.1).1, rfl, h⟩

theorem nodup_row (entries : List Entry) (i : Nat) : (row entries i).Nodup := by
  by_cases h : i < entries.length
  · have hplaced : entries.zipIdx.Nodup := by
      refine List.Nodup.of_map Prod.snd ?_
      rw [List.zipIdx_map_snd]
      exact List.nodup_range'
    rw [row_eq h]
    refine List.Nodup.map ?_ ((hplaced.sublist (List.drop_sublist _ _)).filter _)
    intro b c hbc
    exact (Prod.mk.inj hbc).2
  · rw [row_eq_nil (Nat.not_lt.1 h)]
    exact List.nodup_nil

/-- No candidate is found twice: those of different rows differ in their first position. -/
theorem nodup_candidates (entries : List Entry) : (candidates entries).Nodup := by
  refine List.nodup_flatMap.2 ⟨fun i _ => nodup_row entries i, ?_⟩
  refine List.nodup_range.imp fun hij p hi hj => hij ?_
  rw [← (mem_row_iff.1 hi).1, (mem_row_iff.1 hj).1]

/-! ## Sums over rows -/

theorem candidates_eq_flatMap_finRange (entries : List Entry) :
    candidates entries =
      (List.finRange entries.length).flatMap fun i : Fin entries.length => row entries i := by
  rw [candidates, ← List.map_coe_finRange_eq_range, List.flatMap_map]

theorem length_candidates (entries : List Entry) :
    (candidates entries).length = ∑ i : Fin entries.length, (row entries i).length := by
  rw [candidates_eq_flatMap_finRange, List.length_flatMap, ← List.ofFn_eq_map, List.sum_ofFn]

theorem degree_candidates (entries : List Entry) (j : Nat) :
    Scan.degree (candidates entries) j =
      ∑ i : Fin entries.length, Scan.degree (row entries i) j := by
  rw [Scan.degree, candidates_eq_flatMap_finRange, List.countP_flatMap, ← List.ofFn_eq_map,
    List.sum_ofFn]
  rfl

/-- How many candidates have a position second. -/
def marks (pairs : List Candidate) (j : Nat) : Nat := pairs.countP fun p => p.2.2 == j

/-- A row takes part in the candidates of its own position with all its candidates, and in those
of another position with the candidates that have it second. -/
theorem degree_row (entries : List Entry) (i j : Nat) :
    Scan.degree (row entries i) j =
      marks (row entries i) j + if j = i then (row entries i).length else 0 := by
  unfold Scan.degree marks
  split
  · rename_i hji
    have hall : ∀ p ∈ row entries i, (p.1.2 == j || p.2.2 == j) = true := by
      intro p hp
      simp [(mem_row_iff.1 hp).1, hji]
    have hnone : ∀ p ∈ row entries i, ¬ (p.2.2 == j) = true := by
      intro p hp
      have := (mem_row_iff.1 hp).2.1
      simp
      omega
    rw [List.countP_eq_length.2 hall, List.countP_eq_zero.2 hnone, Nat.zero_add]
  · rename_i hji
    rw [Nat.add_zero]
    refine List.countP_congr fun p hp => ?_
    have := (mem_row_iff.1 hp).1
    simp [this, Ne.symm hji]

end RpkiOverlap

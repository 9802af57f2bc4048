import Mathlib.Algebra.Order.BigOperators.Group.Finset
import RpkiOverlap.Overlap.Schedule
import RpkiOverlap.Proofs.Overlap.Candidates

/-! # The result does not depend on the schedule

The tasks of the rows share the counts and the total, and a task skips its row when it finds the
total too high.  So which rows run depends on the schedule.  The result does not.

What is shared is at any moment the sum of what the tasks have put into it so far (`Invariant`).
A task puts no more into the total than the length of its row, so the total is never above the
number of all candidates; and it skips its row only when the total is above the limit, where it
stays.  Hence no row is skipped unless the comparison fails, and when it fails, it fails whatever
was skipped.

* `invariant_advance` is the step lemma and `invariant_run` the run lemma.
* `exists_finished` says that every schedule can be completed.
* `run_independent` is the result.
-/
namespace RpkiOverlap.Schedule
open State

variable {limits : Limits} {entries : List Entry}

/-! ## What a task has put into the shared counts -/

namespace Task
variable (row : List Candidate)

/-- What a task has added to the total. -/
def added : Task → Nat
  | done => row.length
  | waiting | counting _ | adding | skipped => 0

/-- What a task has added to the count of a position. -/
def counted (j : Nat) : Task → Nat
  | waiting | skipped => 0
  | counting left => marks row j - marks left j
  | adding | done => Scan.degree row j

/-- The candidates that a task still has to count belong to its row. -/
def Within : Task → Prop
  | counting left => left <:+ row
  | waiting | adding | done | skipped => True

/-- How many steps a task still takes at most. -/
def stepsLeft : Task → Nat
  | waiting => row.length + 3
  | counting left => left.length + 2
  | adding => 1
  | done | skipped => 0

variable {row}

theorem added_le (t : Task) : t.added row ≤ row.length := by
  cases t <;> simp [added]

theorem counted_le {i j : Nat} (t : Task) :
    t.counted (RpkiOverlap.row entries i) j ≤ Scan.degree (RpkiOverlap.row entries i) j := by
  cases t with
  | counting left =>
    rw [degree_row]
    simp only [counted]
    omega
  | _ => simp [counted]

end Task

theorem marks_le_of_suffix {left row : List Candidate} (h : left <:+ row) (j : Nat) :
    marks left j ≤ marks row j :=
  h.sublist.countP_le

theorem marks_cons (p : Candidate) (left : List Candidate) (j : Nat) :
    marks (p :: left) j = marks left j + if j = p.2.2 then 1 else 0 := by
  simp only [marks, List.countP_cons, beq_iff_eq, eq_comm (a := j)]

/-! ## Moving one task -/

section
variable {n : Nat}

@[simp] theorem setTask_self (σ : State n) (i : Fin n) (t : Task) : (σ.setTask i t).task i = t := by
  simp [setTask]

theorem setTask_of_ne (σ : State n) {i k : Fin n} (t : Task) (h : k ≠ i) :
    (σ.setTask i t).task k = σ.task k := by
  simp [setTask, h]

/-- A sum over all tasks changes by the part of the task that moves. -/
theorem sum_setTask (f : Fin n → Task → Nat) (σ : State n) (i : Fin n) (t : Task) :
    ∑ k, f k ((σ.setTask i t).task k) + f i (σ.task i) = ∑ k, f k (σ.task k) + f i t := by
  have hrest : ∑ k ∈ Finset.univ.erase i, f k ((σ.setTask i t).task k) =
      ∑ k ∈ Finset.univ.erase i, f k (σ.task k) :=
    Finset.sum_congr rfl fun k hk => by rw [setTask_of_ne σ t (Finset.ne_of_mem_erase hk)]
  rw [← Finset.add_sum_erase _ _ (Finset.mem_univ i),
    ← Finset.add_sum_erase _ (fun k => f k (σ.task k)) (Finset.mem_univ i), hrest, setTask_self]
  omega

end

/-! ## The invariant -/

/-- The shared counts are the sums of what the tasks have put into them, and a row is skipped only
when the total is above the limit. -/
structure Invariant (limits : Limits) (entries : List Entry) (σ : State entries.length) : Prop where
  within : ∀ i, (σ.task i).Within (row entries i)
  total : σ.total = ∑ i, (σ.task i).added (row entries i)
  count : ∀ j, σ.count j = ∑ i, (σ.task i).counted (row entries i) j
  skipped : ∀ i, σ.task i = .skipped → limits.total < σ.total

theorem invariant_initial : Invariant limits entries initial where
  within _ := trivial
  total := by simp [initial, Task.added]
  count _ := by simp [initial, Task.counted]
  skipped _ h := by cases h

/-- A task that moves keeps the invariant when the shared counts grow by what it puts into them. -/
theorem Invariant.move {σ τ : State entries.length} (h : Invariant limits entries σ)
    {i : Fin entries.length} {t : Task} (htask : τ.task = (σ.setTask i t).task)
    (hwithin : t.Within (row entries i))
    (htotal : τ.total + (σ.task i).added (row entries i) = σ.total + t.added (row entries i))
    (hcount : ∀ j, τ.count j + (σ.task i).counted (row entries i) j =
      σ.count j + t.counted (row entries i) j)
    (hskip : t = .skipped → limits.total < σ.total) (hgrow : σ.total ≤ τ.total) :
    Invariant limits entries τ where
  within k := by
    rw [htask]
    by_cases hk : k = i
    · subst hk
      rwa [setTask_self]
    · rw [setTask_of_ne σ t hk]
      exact h.within k
  total := by
    have hsum := sum_setTask (fun k t => t.added (row entries k)) σ i t
    have := h.total
    rw [htask]
    omega
  count j := by
    have hsum := sum_setTask (fun k t => t.counted (row entries k) j) σ i t
    have := h.count j
    have := hcount j
    rw [htask]
    omega
  skipped k hk := by
    rw [htask] at hk
    refine Nat.lt_of_lt_of_le ?_ hgrow
    by_cases hki : k = i
    · subst hki
      rw [setTask_self] at hk
      exact hskip hk
    · rw [setTask_of_ne σ t hki] at hk
      exact h.skipped k hk

/-- **One step.**  Every step of every task keeps the invariant. -/
theorem invariant_advance {σ : State entries.length} (h : Invariant limits entries σ)
    (i : Fin entries.length) : Invariant limits entries (advance limits entries σ i) := by
  have hwithin := h.within i
  cases ht : σ.task i with
  | waiting =>
    simp only [advance, ht]
    split
    · rename_i hover
      refine h.move rfl trivial ?_ (fun j => ?_) (fun _ => hover) (Nat.le_refl _)
      · simp [ht, Task.added, setTask]
      · simp [ht, Task.counted, setTask]
    · refine h.move rfl (List.suffix_refl _) ?_ (fun j => ?_) (fun h => by cases h) (Nat.le_refl _)
      · simp [ht, Task.added, setTask]
      · simp [ht, Task.counted, setTask]
  | counting left =>
    rw [ht] at hwithin
    cases left with
    | nil =>
      simp only [advance, ht]
      refine h.move rfl trivial ?_ (fun j => ?_) (fun h => by cases h) (Nat.le_refl _)
      · simp [ht, Task.added, setTask, raiseCount]
      · have hdegree := degree_row entries i j
        have hnil : marks [] j = 0 := rfl
        simp only [ht, Task.counted, setTask, raiseCount, hnil]
        by_cases hji : j = i
        · rw [if_pos hji] at hdegree ⊢
          omega
        · rw [if_neg hji] at hdegree ⊢
          omega
    | cons p left =>
      simp only [advance, ht]
      refine h.move rfl ?_ ?_ (fun j => ?_) (fun h => by cases h) (Nat.le_refl _)
      · exact (List.suffix_cons p left).trans hwithin
      · simp [ht, Task.added, setTask, raiseCount]
      · -- the row marks `j` at least as often as what is left of it
        have hle := marks_le_of_suffix hwithin j
        simp only [ht, Task.counted, setTask, raiseCount, marks_cons] at hle ⊢
        by_cases hj : j = p.2.2
        · simp only [if_pos hj] at hle ⊢
          omega
        · simp only [if_neg hj] at hle ⊢
          omega
  | adding =>
    simp only [advance, ht]
    refine h.move rfl trivial ?_ (fun j => ?_) (fun h => by cases h) ?_
    · simp [ht, Task.added, setTask, raiseTotal]
    · simp [ht, Task.counted, setTask, raiseTotal]
    · simp [setTask, raiseTotal]
  | done => simpa only [advance, ht] using h
  | skipped => simpa only [advance, ht] using h

variable (limits) in
/-- **A whole run.**  The invariant holds after every schedule. -/
theorem invariant_run (schedule : List (Fin entries.length)) :
    Invariant limits entries (run limits entries schedule) := by
  suffices key : ∀ σ, Invariant limits entries σ →
      Invariant limits entries (schedule.foldl (advance limits entries) σ) from
    key _ invariant_initial
  induction schedule with
  | nil => exact fun _ h => h
  | cons i schedule ih => exact fun σ h => ih _ (invariant_advance h i)

/-! ## Consequences -/

section
variable {σ : State entries.length} (h : Invariant limits entries σ)
include h

/-- The total is never above the number of all candidates. -/
theorem Invariant.total_le : σ.total ≤ (candidates entries).length := by
  rw [h.total, length_candidates]
  exact Finset.sum_le_sum fun i _ => Task.added_le (σ.task i)

/-- No count is ever above the number of candidates of its entry. -/
theorem Invariant.count_le (j : Nat) : σ.count j ≤ Scan.degree (candidates entries) j := by
  rw [h.count, degree_candidates]
  exact Finset.sum_le_sum fun i _ => Task.counted_le (σ.task i)

/-- A skipped row shows that there are more candidates than the limit admits. -/
theorem Invariant.lt_of_skipped {i : Fin entries.length} (hi : σ.task i = .skipped) :
    limits.total < (candidates entries).length :=
  Nat.lt_of_lt_of_le (h.skipped i hi) h.total_le

/-- When all tasks are done, the total, the counts and the candidates are complete. -/
theorem Invariant.complete (hdone : ∀ i, σ.task i = .done) :
    σ.total = (candidates entries).length ∧ (∀ j, σ.count j = Scan.degree (candidates entries) j) ∧
      collected entries σ = candidates entries := by
  refine ⟨?_, fun j => ?_, ?_⟩
  · rw [h.total, length_candidates]
    exact Finset.sum_congr rfl fun i _ => by rw [hdone i, Task.added]
  · rw [h.count, degree_candidates]
    exact Finset.sum_congr rfl fun i _ => by rw [hdone i, Task.counted]
  · rw [candidates_eq_flatMap_finRange, collected]
    exact List.flatMap_congr fun i _ => by rw [hdone i, Task.collected]

end

/-- A task that has ended without being skipped is done. -/
theorem Task.eq_done {t : Task} (hended : t.ended = true) (hskip : t ≠ .skipped) : t = .done := by
  cases t with
  | done => rfl
  | skipped => exact absurd rfl hskip
  | _ => cases hended

/-- A finished comparison that fails reports a total above the limit, whatever was skipped. -/
theorem Invariant.lt_total {σ : State entries.length} (h : Invariant limits entries σ)
    (hfinished : σ.Finished) (hover : limits.total < (candidates entries).length) :
    limits.total < σ.total := by
  by_cases hskip : ∃ i, σ.task i = .skipped
  · obtain ⟨i, hi⟩ := hskip
    exact h.skipped i hi
  · have hdone : ∀ i, σ.task i = .done := fun i =>
      Task.eq_done (hfinished i) fun hi => hskip ⟨i, hi⟩
    rwa [(h.complete hdone).1]

/-! ## Every schedule can be completed -/

variable (limits) in
/-- A step of a task that has not ended brings the end nearer. -/
theorem stepsLeft_advance_lt {σ : State entries.length} {i : Fin entries.length}
    (hi : (σ.task i).ended = false) :
    ∑ k, ((advance limits entries σ i).task k).stepsLeft (row entries k) <
      ∑ k, (σ.task k).stepsLeft (row entries k) := by
  have hmove : ∃ t : Task, (advance limits entries σ i).task = (σ.setTask i t).task ∧
      t.stepsLeft (row entries i) < (σ.task i).stepsLeft (row entries i) := by
    cases ht : σ.task i with
    | waiting =>
      by_cases hover : limits.total < σ.total
      · exact ⟨.skipped, by simp [advance, ht, hover], by simp [Task.stepsLeft]⟩
      · refine ⟨.counting (row entries i), by simp [advance, ht, hover], ?_⟩
        simp [Task.stepsLeft]
    | counting left =>
      cases left with
      | nil => exact ⟨.adding, by simp [advance, ht, raiseCount], by simp [Task.stepsLeft]⟩
      | cons p left =>
        exact ⟨.counting left, by simp [advance, ht, raiseCount], by simp [Task.stepsLeft]⟩
    | adding => exact ⟨.done, by simp [advance, ht, raiseTotal], by simp [Task.stepsLeft]⟩
    | done | skipped =>
      rw [ht] at hi
      cases hi
  obtain ⟨t, htask, hlt⟩ := hmove
  have hsum := sum_setTask (fun k t => t.stepsLeft (row entries k)) σ i t
  rw [htask]
  omega

/-- From every state some further steps end all tasks. -/
theorem exists_finished_from (σ : State entries.length) :
    ∃ more : List (Fin entries.length), (more.foldl (advance limits entries) σ).Finished := by
  by_cases hfinished : σ.Finished
  · exact ⟨[], hfinished⟩
  · obtain ⟨i, hi⟩ := not_forall.1 hfinished
    rw [Bool.not_eq_true] at hi
    have hlt := stepsLeft_advance_lt limits hi
    obtain ⟨more, hmore⟩ := exists_finished_from (advance limits entries σ i)
    exact ⟨i :: more, hmore⟩
termination_by ∑ k, (σ.task k).stepsLeft (row entries k)

theorem exists_finished (schedule : List (Fin entries.length)) :
    ∃ more, (run limits entries (schedule ++ more)).Finished := by
  obtain ⟨more, hmore⟩ := exists_finished_from (run limits entries schedule)
  refine ⟨more, ?_⟩
  rwa [run, List.foldl_append]

/-! ## The result -/

/-- **The result does not depend on the schedule.**  Every schedule can be completed, and no count
ever passes the number of candidates that it counts.  If there are no more candidates than the
limit admits, no row is skipped at any time, and when all tasks have ended, the total and the
counts are those of all candidates and the outcome is that of the sequential comparison.  If there
are more, the comparison fails as soon as all tasks have ended, with a total above the limit. -/
theorem run_independent (limits : Limits) (entries : List Entry)
    (schedule : List (Fin entries.length)) :
    (∃ more, (run limits entries (schedule ++ more)).Finished) ∧
    (run limits entries schedule).total ≤ (candidates entries).length ∧
    (∀ j, (run limits entries schedule).count j ≤ Scan.degree (candidates entries) j) ∧
    ((candidates entries).length ≤ limits.total →
      (∀ i, (run limits entries schedule).task i ≠ .skipped) ∧
      ((run limits entries schedule).Finished →
        (run limits entries schedule).total = (candidates entries).length ∧
        (∀ j, (run limits entries schedule).count j = Scan.degree (candidates entries) j) ∧
        outcome limits entries (run limits entries schedule) = detect limits entries ∧
        ∃ scan, (detect limits entries).1 = .ok scan ∧
          scan.candidateCount = (candidates entries).length)) ∧
    (limits.total < (candidates entries).length →
      (run limits entries schedule).Finished →
        ∃ total, (outcome limits entries (run limits entries schedule)).1 =
            .error (.overlapBudgetExceeded total limits.total) ∧
          limits.total < total ∧ total ≤ (candidates entries).length) := by
  have h := invariant_run limits schedule
  refine ⟨exists_finished schedule, h.total_le, h.count_le, fun hle => ?_, fun hover hfin => ?_⟩
  · have hskip : ∀ i, (run limits entries schedule).task i ≠ .skipped := fun i hi =>
      absurd (h.lt_of_skipped hi) (Nat.not_lt.2 hle)
    refine ⟨hskip, fun hfin => ?_⟩
    obtain ⟨htotal, hcount, hcollected⟩ := h.complete fun i => Task.eq_done (hfin i) (hskip i)
    refine ⟨htotal, hcount, ?_, ?_⟩
    · rw [outcome, detect, htotal, hcollected, funext hcount]
    · simp [detect, Scan.conclude, Nat.not_lt.2 hle]
  · have hlt := h.lt_total hfin hover
    exact ⟨_, by simp [outcome, Scan.conclude, hlt], hlt, h.total_le⟩

end RpkiOverlap.Schedule

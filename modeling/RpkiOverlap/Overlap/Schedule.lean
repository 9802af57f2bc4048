import RpkiOverlap.Overlap.Detection

/-! # Rows scanned at the same time

The rows of a comparison are independent tasks, and many of them run at once.  They share a
count for every entry and the total of all candidates, and the order in which their accesses to
these happen is open.

* A `Task` reads the total first.  When it is above its limit already, the row is skipped: the
  comparison fails anyway.  Otherwise the task finds the candidates of its row, raises the count
  of the second entry of each by one, then that of its own entry by the length of the row, and
  last the total.
* Every access is one step of the task (`advance`).  An order of steps is a list that says whose
  turn it is (`run`), and every list is one.
* When all tasks have ended, the comparison makes its result of what they have collected and
  counted (`outcome`).
-/
namespace RpkiOverlap.Schedule

/-- Where the task of a row stands. -/
inductive Task where
  /-- It has not read the total. -/
  | waiting
  /-- It still has to count the second entries of the candidates in `left`, and then its own. -/
  | counting (left : List Candidate)
  /-- It still has to add its row to the total. -/
  | adding
  | done
  /-- It found the total above the limit. -/
  | skipped
  deriving DecidableEq

/-- Whether a task takes no more steps. -/
def Task.ended : Task → Bool
  | done | skipped => true
  | waiting | counting _ | adding => false

/-- The candidates that a task of a given row hands over. -/
def Task.collected (row : List Candidate) : Task → List Candidate
  | done => row
  | waiting | counting _ | adding | skipped => []

/-- The tasks of `n` rows and what they share. -/
structure State (n : Nat) where
  task : Fin n → Task
  /-- The number of candidates counted for each position. -/
  count : Nat → Nat
  total : Nat

namespace State
variable {n : Nat}

/-- Before the first step. -/
def initial : State n := ⟨fun _ => .waiting, fun _ => 0, 0⟩

/-- Moves a task on. -/
def setTask (σ : State n) (i : Fin n) (t : Task) : State n :=
  { σ with task := fun k => if k = i then t else σ.task k }

/-- Raises the count of a position. -/
def raiseCount (σ : State n) (position amount : Nat) : State n :=
  { σ with count := fun j => if j = position then σ.count j + amount else σ.count j }

/-- Raises the total. -/
def raiseTotal (σ : State n) (amount : Nat) : State n := { σ with total := σ.total + amount }

/-- All tasks have ended. -/
def Finished (σ : State n) : Prop := ∀ i, (σ.task i).ended = true

end State

variable (limits : Limits) (entries : List Entry)

/-- The next step of the task of a row; a task that has ended takes none. -/
def advance (σ : State entries.length) (i : Fin entries.length) : State entries.length :=
  match σ.task i with
  | .waiting =>
    if limits.total < σ.total then σ.setTask i .skipped
    else σ.setTask i (.counting (row entries i))
  | .counting (p :: left) => (σ.setTask i (.counting left)).raiseCount p.2.2 1
  | .counting [] => (σ.setTask i .adding).raiseCount i (row entries i).length
  | .adding => (σ.setTask i .done).raiseTotal (row entries i).length
  | .done | .skipped => σ

/-- The state after the steps of a schedule. -/
def run (schedule : List (Fin entries.length)) : State entries.length :=
  schedule.foldl (advance limits entries) .initial

/-- The candidates that the tasks hand over, row by row. -/
def collected (σ : State entries.length) : List Candidate :=
  (List.finRange entries.length).flatMap fun i => (σ.task i).collected (row entries i)

/-- The result of a comparison whose tasks have ended in a given state, and its reports. -/
def outcome (σ : State entries.length) : Except Fault Scan × List Event :=
  Scan.conclude limits entries (collected entries σ) σ.total σ.count

end RpkiOverlap.Schedule

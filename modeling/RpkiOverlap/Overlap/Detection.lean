import RpkiOverlap.Event
import RpkiOverlap.Fault
import RpkiOverlap.Overlap.Cluster
import RpkiOverlap.Overlap.Limits

/-! # Detection of overlaps

Every two entries are compared.  A pair is a *candidate* when neither entry lies above the
other and their resources have a number in common.

The comparison goes row by row: the row of an entry has its candidates with the entries behind
it.  While the rows are scanned the candidates are counted, all together and for each entry, and
`Scan.conclude` makes the result of what was collected and counted.

* More candidates than `Limits.total` make the comparison fail: there is no partial result.  Rows
  may be left out then (`Schedule`), so how many candidates the failure names is open.
* An entry in more than `Limits.perCertificate` candidates is discarded together with all of
  them.  Whether it is discarded depends on all candidates, before any is dropped.
* What remains are the clusters, in the order of their members' paths.
-/
namespace RpkiOverlap

/-- An entry with its position in the list of entries. -/
abbrev Placed := Entry × Nat

/-- Whether two entries are a candidate for an overlap. -/
def isCandidate (a b : Entry) : Bool :=
  !a.path.related b.path && a.resources.intersects b.resources

/-- A candidate: two entries, the one with the earlier position first. -/
abbrev Candidate := Placed × Placed

/-- The candidates of the entry at a position with the entries behind it. -/
def row (entries : List Entry) (i : Nat) : List Candidate :=
  match entries.zipIdx.drop i with
  | [] => []
  | a :: rest => (rest.filter fun b => isCandidate a.1 b.1).map fun b => (a, b)

/-- The candidates among entries, by the position of the first entry and then the second. -/
def candidates (entries : List Entry) : List Candidate :=
  (List.range entries.length).flatMap (row entries)

/-- What a comparison finds. -/
structure Scan where
  clusters : List Cluster
  discarded : List Entry
  candidateCount : Nat
  deriving DecidableEq

namespace Scan

/-- How many candidates an entry takes part in, by its position. -/
def degree (pairs : List Candidate) (position : Nat) : Nat :=
  pairs.countP fun p => p.1.2 == position || p.2.2 == position

/-- Whether the entry at a position takes part in too many candidates, when `count` says in how
many it does. -/
def isOverloaded (limits : Limits) (count : Nat → Nat) (position : Nat) : Bool :=
  limits.perCertificate < count position

/-- The entries that take part in too many candidates. -/
def overloaded (limits : Limits) (entries : List Entry) (count : Nat → Nat) : List Placed :=
  entries.zipIdx.filter fun a => isOverloaded limits count a.2

/-- The clusters of the candidates without an overloaded entry, in order. -/
def clustersOf (limits : Limits) (count : Nat → Nat) (pairs : List Candidate) : List Cluster :=
  let kept := pairs.filter fun p =>
    !isOverloaded limits count p.1.2 && !isOverloaded limits count p.2.2
  (kept.filterMap fun p => Cluster.of? p.1.1 p.2.1).mergeSort Cluster.le

/-! ### Reports -/

/-- How many URIs are printed when an entry is discarded. -/
def maxPrintedUris : Nat := 50

/-- The URIs of the entries that overlap the entry at a position, in the order of the
candidates. -/
def involved (pairs : List Candidate) (position : Nat) : List String :=
  pairs.filterMap fun p =>
    if p.1.2 = position then some p.2.1.uri
    else if p.2.2 = position then some p.1.1.uri
    else none

/-- The report of a discarded entry. -/
def discardedEvent (count : Nat → Nat) (pairs : List Candidate) (a : Placed) : Event :=
  .say .error "too many overlaps for certificate, discarding them"
    [("uri", a.1.uri), ("path", a.1.path.text),
      ("overlap_count", toString (count a.2)),
      ("involved", ", ".intercalate ((involved pairs a.2).take maxPrintedUris))]

/-- The report of a comparison that is given up with a number of candidates. -/
def exceededEvent (limits : Limits) (entries : List Entry) (total : Nat) : Event :=
  .say .error "too many overlaps to process"
    [("candidate_pairs", toString total), ("limit", toString limits.total),
      ("certificate_count", toString entries.length)]

/-- The report of a finished comparison. -/
def finishedEvent (entries : List Entry) (scan : Scan) : Event :=
  .say .info "finished overlap check"
    [("certificate_count", toString entries.length),
      ("candidate_pairs", toString scan.candidateCount),
      ("cluster_count", toString scan.clusters.length),
      ("discarded_count", toString scan.discarded.length)]

/-! ### The result -/

/-- What the comparison makes of the candidates it has collected, of their number `total` and of
the number `count` of candidates of each entry, and what it reports. -/
def conclude (limits : Limits) (entries : List Entry) (pairs : List Candidate) (total : Nat)
    (count : Nat → Nat) : Except Fault Scan × List Event :=
  if limits.total < total then
    (.error (.overlapBudgetExceeded total limits.total), [exceededEvent limits entries total])
  else
    let overloaded := overloaded limits entries count
    let scan : Scan :=
      { clusters := clustersOf limits count pairs
        discarded := overloaded.map Prod.fst
        candidateCount := total }
    (.ok scan, overloaded.map (discardedEvent count pairs) ++ [finishedEvent entries scan])

end Scan

/-- Compares every two entries, and reports.  Every row is scanned here, also when there are too
many candidates already. -/
def detect (limits : Limits) (entries : List Entry) : Except Fault Scan × List Event :=
  let pairs := candidates entries
  Scan.conclude limits entries pairs pairs.length (Scan.degree pairs)

end RpkiOverlap

import RpkiOverlap.Overlap.Report
import RpkiOverlap.Time.Period

/-! # Gauges

Numbers that monitoring reads after every run.

* A run that succeeds overwrites the gauges; a failed one leaves them as they are.
* The counts of runs only grow.

All of them are words of 64 bits and wrap around.
-/
namespace RpkiOverlap
open Time (Period)

/-- What the last successful run found, and how many runs there were. -/
structure Gauges where
  certificates : UInt64 := 0
  overlappingCertificates : UInt64 := 0
  overlappingResources : UInt64 := 0
  comparisonMilliseconds : UInt64 := 0
  runsPassed : UInt64 := 0
  runsFailed : UInt64 := 0
  deriving DecidableEq, Repr

namespace Gauges

/-- Overwrites the gauges with the report of a run and the time of its comparison. -/
def publish (g : Gauges) (report : Report) (comparison : Period) : Gauges where
  certificates := .ofNat report.totalCertificates
  overlappingCertificates := .ofNat report.overlappingCertificates
  overlappingResources := .ofNat report.overlappingResources
  comparisonMilliseconds := .ofNat comparison.milliseconds
  runsPassed := g.runsPassed + 1
  runsFailed := g.runsFailed

/-- Counts a failed run. -/
def fail (g : Gauges) : Gauges := { g with runsFailed := g.runsFailed + 1 }

/-- The gauges with their names. -/
def named (g : Gauges) : List (String × UInt64) :=
  [("rpkimonitoring.certificate.analysis.certificate.count", g.certificates),
    ("rpkimonitoring.certificate.analysis.overlapping.certificate.count",
      g.overlappingCertificates),
    ("rpkimonitoring.certificate.analysis.overlapping.resource.count", g.overlappingResources),
    ("rpkimonitoring.certificate.analysis.comparison.duration", g.comparisonMilliseconds)]

end Gauges
end RpkiOverlap

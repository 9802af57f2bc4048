import RpkiOverlap.Overlap.Detection
import RpkiOverlap.Overlap.Policy
import RpkiOverlap.Overlap.Report
import RpkiOverlap.Tree.Extraction

/-! # Analysis

One analysis of a snapshot: the certificates below the trust anchor are extracted and
compared, and what the policy keeps of the overlaps is reported.

Faults of single objects are local to their subtrees.  The only failure of an analysis is a
comparison that finds more overlaps than its limit, and then there is no partial report.
-/
namespace RpkiOverlap
open Time (Instant)

/-- The result of an analysis. -/
structure Analysis where
  report : Report
  /-- How many overlaps there were before the policy. -/
  unfilteredClusters : Nat
  /-- The certificates left out of the comparison. -/
  discarded : List Entry
  deriving DecidableEq

namespace Analysis

/-- The result for a number of certificates and the outcome of their comparison. -/
def ofScan (config : Config) (now : Instant) (certificates : Nat) (scan : Scan) : Analysis where
  report := .of certificates ((Policy.ofConfig config).filter now scan.clusters)
  unfilteredClusters := scan.clusters.length
  discarded := scan.discarded

/-- Analyzes a snapshot at a time, and reports. -/
def run (s : Snapshot) (d : Decoder) (config : Config) (now : Instant) :
    Except Fault Analysis × List Event :=
  let entries := s.extract d config.trustAnchor
  let events :=
    [Event.say .info "processing snapshot" [("object_count", toString s.size)]] ++
      s.extractEvents d config.trustAnchor ++
      [Event.say .info "expanded certificates" [("certificate_count", toString entries.length)]]
  let (result, comparison) := detect config.limits entries
  match result with
  | .error fault => (.error fault, events ++ comparison)
  | .ok scan =>
    let analysis := ofScan config now entries.length scan
    (.ok analysis, events ++ comparison ++
      (Policy.ofConfig config).events now scan.clusters ++ analysis.report.events)

end Analysis
end RpkiOverlap

import RpkiOverlap.Event
import RpkiOverlap.Overlap.Cluster

/-! # Reports

What an analysis tells about the clusters it keeps.

* The counts are cardinalities: distinct paths of members, and maximal runs of the union of
  all common resources.  They do not depend on the order of clusters or on repetitions.
* `Report.overlappingUris` names each member once, in the order in which they first occur.
* `Report.events` is the summary for people, with samples when there are many clusters.
-/
namespace RpkiOverlap

/-- The outcome of an analysis. -/
structure Report where
  totalCertificates : Nat
  overlappingCertificates : Nat
  overlappingResources : Nat
  resources : ResourceSet
  clusters : List Cluster
  deriving DecidableEq

namespace Report

/-- The members of clusters, in order. -/
def membersOf (clusters : List Cluster) : List Entry := clusters.flatMap Cluster.members

/-- The entries whose path no earlier entry has. -/
def firstByPath (seen : List Path) : List Entry → List Entry
  | [] => []
  | e :: es => if e.path ∈ seen then firstByPath seen es else e :: firstByPath (e.path :: seen) es

/-- The union of what the members of each cluster share. -/
def sharedResources (clusters : List Cluster) : ResourceSet :=
  clusters.foldl (fun acc c => acc.union c.intersection) .empty

/-- The report on some clusters among a number of certificates. -/
def of (totalCertificates : Nat) (clusters : List Cluster) : Report :=
  let resources := sharedResources clusters
  { totalCertificates
    overlappingCertificates := ((membersOf clusters).map (·.path)).eraseDups.length
    overlappingResources := resources.size
    resources
    clusters }

/-- Whether there is any overlap. -/
def hasOverlaps (r : Report) : Bool := !r.clusters.isEmpty

/-- The URI of each member once, by path, in the order of first occurrence. -/
def overlappingUris (r : Report) : List String :=
  (firstByPath [] (membersOf r.clusters)).map (·.uri)

/-! ### The summary -/

/-- Up to how many clusters are an ordinary outcome. -/
def maxQuietClusters : Nat := 20

/-- How many clusters are described when there are more. -/
def sampleClusters : Nat := 3

/-- How many resources are printed. -/
def maxPrintedResources : Nat := 10

/-- How many URIs are printed. -/
def maxPrintedUris : Nat := 50

/-- The reports on the number of clusters. -/
def clusterEvents (r : Report) : List Event :=
  let count := [("cluster_count", toString r.clusters.length)]
  if r.clusters.length ≤ maxQuietClusters then [.say .info "overlaps after filtering" count]
  else
    .say .error s!"too many overlaps after filtering, printing {sampleClusters} samples" count ::
      (r.clusters.take sampleClusters).map fun c => .say .info c.describe []

/-- The report on the common resources, if there are any. -/
def resourceEvents (r : Report) : List Event :=
  if r.overlappingResources = 0 then []
  else
    let shown := (r.resources.toList.take maxPrintedResources).map Resource.print
    let list := ", ".intercalate shown
    [.say .info s!"overlapping resources (max {maxPrintedResources}): {list}"
      [("resource_count", toString r.overlappingResources)]]

/-- The report on the certificates involved, if there are any. -/
def certificateEvents (r : Report) : List Event :=
  if r.overlappingCertificates = 0 then []
  else
    let list := ", ".intercalate (r.overlappingUris.take maxPrintedUris)
    [.say .info s!"certificates with overlap (max {maxPrintedUris}): {list}"
      [("certificate_count", toString r.overlappingCertificates)]]

/-- The summary of a report. -/
def events (r : Report) : List Event := r.clusterEvents ++ r.resourceEvents ++ r.certificateEvents

end Report
end RpkiOverlap

import RpkiOverlap.Event
import RpkiOverlap.Snapshot

/-! # Extraction of the certificates below a trust anchor

Every resource certificate may name a manifest, and every file of the manifest that is a
certificate is a child, found next to the manifest.  `visits` walks this tree from a trust
anchor and says of every position what was found there.

* A `Visit` is a position with its `Outcome`: an entry, or the fault that made the walk
  turn back there.  Faults are local: they never end the walk elsewhere.
* A certificate whose URI already lies on the way from the root is not entered again, so
  every way from the root has distinct URIs of the snapshot and the walk ends.
* `extract` lists the entries of a walk, and `Visit.events` what each position reports.
-/
namespace RpkiOverlap

/-- What became of the manifest of an entry. -/
inductive ManifestOutcome where
  | unnamed
  | listed (uri : String) (fileCount : Nat)
  | failed (fault : Fault)
  deriving DecidableEq

/-- What was found at a position. -/
inductive Outcome where
  | pruned (fault : Fault)
  | entry (entry : Entry) (manifest : ManifestOutcome)
  deriving DecidableEq

/-- A position of the tree and what was found there. -/
structure Visit where
  uri : String
  path : Path
  outcome : Outcome
  deriving DecidableEq

namespace Visit

/-- The entry found at a position, if any. -/
def entry? (v : Visit) : Option Entry :=
  match v.outcome with
  | .entry e _ => some e
  | .pruned _ => none

/-- The report of a fault.  A missing object is a warning, a router certificate is expected,
anything else is an error. -/
def faultEvent (path : Path) (fault : Fault) : Event :=
  let fields := [("path", path.text), ("error", fault.message)]
  match fault with
  | .certificateNotFound _ | .manifestNotFound _ => .say .warn "pruning subtree" fields
  | .routerCertificate _ => .say .debug "skipping router certificate" fields
  | _ => .say .error "pruning subtree" fields

/-- The report on the manifest of an entry. -/
def manifestEvent (uri : String) (path : Path) : ManifestOutcome → Event
  | .unnamed => .say .debug "certificate has no manifest SIA" [("uri", uri), ("path", path.text)]
  | .listed manifest count =>
    .say .debug "expanding manifest"
      [("uri", uri), ("manifest", manifest), ("file_count", toString count)]
  | .failed fault => faultEvent path fault

/-- What a position reports. -/
def event (v : Visit) : Event :=
  match v.outcome with
  | .pruned fault => faultEvent v.path fault
  | .entry _ m => manifestEvent v.uri v.path m

end Visit

namespace Snapshot
variable (s : Snapshot) (d : Decoder)

/-- The URIs of the children of a certificate, and what became of its manifest. -/
def children (c : ResourceCertificate) : List String × ManifestOutcome :=
  match c.manifestUri with
  | none => ([], .unnamed)
  | some uri =>
    match s.manifest d uri with
    | .error fault => ([], .failed fault)
    | .ok m =>
      ((m.filesEndingIn certificateEnding).map (siblingUri uri), .listed uri m.fileNames.length)

/-- A URI with a certificate is a URI of the snapshot. -/
theorem mem_uris_of_certificate {uri : String} {c : ResourceCertificate}
    (h : s.certificate d uri = .ok c) : uri ∈ s.uris := by
  unfold certificate get? at h
  split at h
  · cases h
  · rename_i bytes hb
    obtain ⟨l, r, heq, _⟩ := List.lookup_eq_some_iff.1 hb
    simp [uris, heq]

/-- The URIs of the snapshot that do not lie on the way from the root. -/
def remaining (lineage : List String) : List String := s.uris.filter fun u => u ∉ lineage

/-- Entering a URI of the snapshot leaves fewer to enter. -/
theorem length_remaining_lt {uri : String} {lineage : List String} (hmem : uri ∈ s.uris)
    (hnot : uri ∉ lineage) :
    (s.remaining (uri :: lineage)).length < (s.remaining lineage).length := by
  have hsub : s.remaining (uri :: lineage) = (s.remaining lineage).filter (· ≠ uri) := by
    simp only [remaining, List.filter_filter]
    exact List.filter_congr fun u _ => by simp [not_or]
  rw [hsub]
  refine List.length_filter_lt_length_iff_exists.2 ⟨uri, ?_, by simp⟩
  exact List.mem_filter.2 ⟨hmem, by simpa using hnot⟩

/-- Walks the tree below a position; `lineage` is the URIs on the way to it.  Children come
before their parent. -/
def visits (uri : String) (path : Path) (lineage : List String) : List Visit :=
  if uri ∈ lineage then [⟨uri, path, .pruned (.cycleDetected uri)⟩]
  else
    match hc : s.certificate d uri with
    | .error fault => [⟨uri, path, .pruned fault⟩]
    | .ok c =>
      ((s.children d c).1.zipIdx.flatMap fun child =>
          visits child.1 (path.child child.2) (uri :: lineage)) ++
        [⟨uri, path, .entry (.ofCertificate uri c path) (s.children d c).2⟩]
termination_by (s.remaining lineage).length
decreasing_by exact s.length_remaining_lt (s.mem_uris_of_certificate d hc) ‹_›

/-- The walk from a trust anchor. -/
def visitsFrom (trustAnchor : String) : List Visit := s.visits d trustAnchor .root []

/-- The certificates reached from a trust anchor. -/
def extract (trustAnchor : String) : List Entry :=
  (s.visitsFrom d trustAnchor).filterMap Visit.entry?

/-- What the extraction reports: one event for each position, and the number of entries. -/
def extractEvents (trustAnchor : String) : List Event :=
  (s.visitsFrom d trustAnchor).map Visit.event ++
    [.say .debug "extracted certificate span"
      [("trust_anchor", trustAnchor),
        ("certificate_count", toString (s.extract d trustAnchor).length)]]

end Snapshot
end RpkiOverlap

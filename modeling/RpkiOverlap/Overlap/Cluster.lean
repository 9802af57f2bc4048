import RpkiOverlap.Certificate
import RpkiOverlap.Resource.Notation
import RpkiOverlap.Time.Timestamp

/-! # Overlap clusters

A `Cluster` is a pair of entries that hold common resources although neither lies above the
other in the tree.  Overlaps are always pairs: entries linked through a third one are not
joined.

* `Cluster.of?` makes the cluster of two entries, ordered by their paths.
* `Cluster.same` compares clusters as entries are identified, by URI and path.
* `Cluster.describe` is the text that people read about a cluster.
-/
namespace RpkiOverlap

/-- Two entries, ordered by path, and the resources that both hold. -/
structure Cluster where
  first : Entry
  second : Entry
  intersection : ResourceSet
  deriving DecidableEq

namespace Cluster

/-- The cluster of two entries.  There is none when the entries are one, when one lies above
the other, or when they have no resource in common. -/
def of? (a b : Entry) : Option Cluster :=
  if a.path.related b.path ∨ a.key = b.key then none
  else if (a.resources.inter b.resources).isEmpty then none
  else if a.path.le b.path then some ⟨a, b, a.resources.inter b.resources⟩
  else some ⟨b, a, a.resources.inter b.resources⟩

/-- The two members, the one with the earlier path first. -/
def members (c : Cluster) : List Entry := [c.first, c.second]

/-- The resources that exactly one member holds. -/
def symmDiff (c : Cluster) : ResourceSet := c.first.resources.symmDiff c.second.resources

/-- Whether an entry is a member. -/
def involves (c : Cluster) (e : Entry) : Bool := c.members.any fun m => m.key == e.key

/-- Whether two clusters have the same members and the same common resources. -/
def same (c d : Cluster) : Bool :=
  c.first.key == d.first.key && c.second.key == d.second.key && c.intersection == d.intersection

/-- Whether a cluster comes no later than another, by the path of the first member and then
by that of the second. -/
def le (c d : Cluster) : Bool :=
  ((c.first.path.order d.first.path).then (c.second.path.order d.second.path)).isLE

/-! ### Description -/

/-- The text about one member. -/
def describeMember (e : Entry) : String :=
  let date (f : ResourceCertificate → Time.Instant) : String :=
    match e.certificate with
    | none => "-"
    | some c => (f c).print
  let subject := e.subject?.getD "-"
  let notBefore := date (·.notBefore)
  let notAfter := date (·.notAfter)
  let manifestUri := e.manifestUri?.getD "-"
  s!"{subject} {e.path.text} notBefore={notBefore} notAfter={notAfter} "
    ++ s!"uri={e.uri} SIA={manifestUri}"

/-- The text about a cluster: its members, what they share and what they do not. -/
def describe (c : Cluster) : String :=
  let difference := if c.symmDiff.isEmpty then "∅" else c.symmDiff.print
  s!"Found intersection between\n{describeMember c.first} and\n{describeMember c.second}.\n"
    ++ s!"Overlap: {c.intersection.print}.\nSymmetric difference: {difference}"

end Cluster
end RpkiOverlap

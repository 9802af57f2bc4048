import RpkiOverlap.Range.Aligned
import RpkiOverlap.Range.Set

/-! # Internet number resources

A `Resource` is one range of AS numbers, IPv4 addresses or IPv6 addresses.  A `ResourceSet`
is a set of numbers in each of the three families; the families never interact.

* `ResourceSet.ofList` collects resources in any order.
* `ResourceSet.toList` lists the maximal runs: AS numbers, then IPv4, then IPv6.
* The set operations and tests work family by family.
* `ResourceSet.components` cuts every run into aligned blocks.
-/
namespace RpkiOverlap

/-- The families of Internet number resources. -/
inductive Family where
  | asn
  | ipv4
  | ipv6
  deriving DecidableEq, Repr

/-- How many bits the numbers of a family have. -/
def Family.width : Family → Nat
  | .asn => 32
  | .ipv4 => 32
  | .ipv6 => 128

/-- One range of AS numbers or addresses. -/
inductive Resource where
  | asn (range : Range 32)
  | ipv4 (range : Range 32)
  | ipv6 (range : Range 128)
  deriving DecidableEq, Repr

namespace Resource

/-- The family of a resource. -/
def family : Resource → Family
  | asn _ => .asn
  | ipv4 _ => .ipv4
  | ipv6 _ => .ipv6

/-- The resource cut into aligned blocks, in ascending order. -/
def blocks : Resource → List Resource
  | asn r => r.blocks.map asn
  | ipv4 r => r.blocks.map ipv4
  | ipv6 r => r.blocks.map ipv6

/-- The order of resources: AS numbers before IPv4 before IPv6, and ranges within a family. -/
def order : Resource → Resource → Ordering
  | asn r, asn s => r.order s
  | asn _, _ => .lt
  | ipv4 _, asn _ => .gt
  | ipv4 r, ipv4 s => r.order s
  | ipv4 _, ipv6 _ => .lt
  | ipv6 r, ipv6 s => r.order s
  | ipv6 _, _ => .gt

end Resource

/-- A set of numbers in each family. -/
structure ResourceSet where
  asn : RangeSet 32
  ipv4 : RangeSet 32
  ipv6 : RangeSet 128
  deriving DecidableEq

namespace ResourceSet

/-- Whether a number of a family belongs to the set. -/
def Has (s : ResourceSet) : Family → Nat → Prop
  | .asn, n => n ∈ s.asn
  | .ipv4, n => n ∈ s.ipv4
  | .ipv6, n => n ∈ s.ipv6

/-- The set without numbers. -/
def empty : ResourceSet := ⟨.empty, .empty, .empty⟩

/-- The set of the numbers of some resources. -/
def ofList (rs : List Resource) : ResourceSet where
  asn := .ofList (rs.filterMap fun | .asn r => some r | _ => none)
  ipv4 := .ofList (rs.filterMap fun | .ipv4 r => some r | _ => none)
  ipv6 := .ofList (rs.filterMap fun | .ipv6 r => some r | _ => none)

/-- All AS numbers. -/
def allAsn : ResourceSet := ofList [.asn .full]

/-- All IPv4 addresses. -/
def allIpv4 : ResourceSet := ofList [.ipv4 .full]

/-- All IPv6 addresses. -/
def allIpv6 : ResourceSet := ofList [.ipv6 .full]

/-- The maximal runs of the set: AS numbers, then IPv4, then IPv6. -/
def toList (s : ResourceSet) : List Resource :=
  s.asn.ranges.map .asn ++ s.ipv4.ranges.map .ipv4 ++ s.ipv6.ranges.map .ipv6

/-- Whether the set has no numbers. -/
def isEmpty (s : ResourceSet) : Bool := s.asn.isEmpty && s.ipv4.isEmpty && s.ipv6.isEmpty

/-- The number of maximal runs. -/
def size (s : ResourceSet) : Nat := s.asn.size + s.ipv4.size + s.ipv6.size

/-- The numbers of either set. -/
def union (a b : ResourceSet) : ResourceSet :=
  ⟨a.asn.union b.asn, a.ipv4.union b.ipv4, a.ipv6.union b.ipv6⟩

/-- The numbers of both sets. -/
def inter (a b : ResourceSet) : ResourceSet :=
  ⟨a.asn.inter b.asn, a.ipv4.inter b.ipv4, a.ipv6.inter b.ipv6⟩

/-- The numbers of the first set that are not in the second. -/
def diff (a b : ResourceSet) : ResourceSet :=
  ⟨a.asn.diff b.asn, a.ipv4.diff b.ipv4, a.ipv6.diff b.ipv6⟩

/-- The numbers of exactly one of the sets. -/
def symmDiff (a b : ResourceSet) : ResourceSet :=
  ⟨a.asn.symmDiff b.asn, a.ipv4.symmDiff b.ipv4, a.ipv6.symmDiff b.ipv6⟩

/-- Whether every number of the second set is in the first. -/
def covers (a b : ResourceSet) : Bool :=
  a.asn.covers b.asn && a.ipv4.covers b.ipv4 && a.ipv6.covers b.ipv6

/-- Whether the two sets have a number of one family in common. -/
def intersects (a b : ResourceSet) : Bool :=
  a.asn.intersects b.asn || a.ipv4.intersects b.ipv4 || a.ipv6.intersects b.ipv6

/-- The aligned blocks of all runs: AS numbers, then IPv4, then IPv6. -/
def components (s : ResourceSet) : List Resource := s.toList.flatMap Resource.blocks

end ResourceSet
end RpkiOverlap

import RpkiOverlap.Config
import RpkiOverlap.Event
import RpkiOverlap.Overlap.Cluster

/-! # Policy

Not every overlap is worth reporting.  A `Rule` admits a cluster or rejects it, given the time
of the analysis, and a policy is a list of rules: a cluster is kept when all of them admit it.

* `Rule.ignored` rejects clusters with a member that the configuration ignores.
* `Rule.tracked` wants all members to publish where the configuration looks.
* `Rule.grace` wants a member that is new: overlaps are expected while a key is replaced, and
  only then.

Rules are predicates, so their order matters for `Policy.events` alone: a rejected cluster is
reported once, with the first rule that rejects it.
-/
namespace RpkiOverlap
open Time (Instant Period)

/-- A reason to keep or reject clusters. -/
structure Rule where
  name : String
  admits : Cluster → Instant → Bool

namespace Rule

/-- Rejects a cluster if the URI of a member fits one of the patterns. -/
def ignored (rules : List IgnoreRule) : Rule where
  name := "ignored_overlaps"
  admits c _ := !c.members.any fun m => rules.any fun r => r.pattern.fits m.uri

/-- Admits a cluster if the members name manifests that fit some patterns, or if there are no
patterns. -/
def tracked (patterns : List Pattern) : Rule where
  name := "tracked_sias"
  admits c _ := patterns.isEmpty ||
    c.members.all fun m => m.manifestUri?.any fun uri => patterns.any fun p => p.fits uri

/-- Whether an instant lies in the last period before `now`.  A period that goes back beyond
the earliest instant has all instants. -/
def isWithin (grace : Period) (now i : Instant) : Bool :=
  (now.minus? grace).all fun start => i.Later start

/-- Admits a cluster if the certificate of a member was issued in the last period, or if there
is no period. -/
def grace (period : Option Period) : Rule where
  name := "keyroll_grace_period"
  admits c now := period.all fun p =>
    (c.members.filterMap Entry.notBefore?).any fun i => isWithin p now i

end Rule

/-- Rules that are applied together, in order. -/
structure Policy where
  rules : List Rule

namespace Policy

/-- The policy of a configuration. -/
def ofConfig (config : Config) : Policy :=
  ⟨[.ignored config.ignored, .tracked config.tracked, .grace config.grace]⟩

/-- Whether all rules admit a cluster. -/
def admits (p : Policy) (now : Instant) (c : Cluster) : Bool :=
  p.rules.all fun r => r.admits c now

/-- The clusters that all rules admit, in order. -/
def filter (p : Policy) (now : Instant) (clusters : List Cluster) : List Cluster :=
  clusters.filter (p.admits now)

/-- The first rule that rejects a cluster. -/
def firstRejecting? (p : Policy) (now : Instant) (c : Cluster) : Option Rule :=
  p.rules.find? fun r => !r.admits c now

/-- What is reported of a rejected cluster. -/
def rejectedEvent (c : Cluster) (r : Rule) : Event :=
  .say .debug "overlap filtered"
    [("policy", r.name), ("first", c.first.uri), ("second", c.second.uri)]

/-- The reports on the rejected clusters, in order. -/
def events (p : Policy) (now : Instant) (clusters : List Cluster) : List Event :=
  clusters.filterMap fun c => (p.firstRejecting? now c).map (rejectedEvent c)

/-- The names of the rules in quotes, in brackets. -/
def describe (p : Policy) : String :=
  "[" ++ ", ".intercalate (p.rules.map fun r => "\"" ++ r.name ++ "\"") ++ "]"

end Policy
end RpkiOverlap

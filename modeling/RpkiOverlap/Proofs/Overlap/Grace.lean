import RpkiOverlap.Proofs.Overlap.Policy
import RpkiOverlap.Proofs.Time.Instant

/-! # The period of grace

While a key is replaced, an old and a new certificate overlap.  `Rule.grace` admits a cluster when
some member was issued after the period of grace began, and it reads the lack of an instant a period
earlier as "admit".

* Outside of a leap second the period begins where the subtraction without limits says, however long
  it is (`admits_grace_iff_issuedAfter`).  Members without a certificate do not count.
* So the rule admits no less when the period is longer or the analysis earlier
  (`admits_grace_of_le`), also where the one period is within the limits and the other beyond them.

`grace_exact` puts this together.
-/
namespace RpkiOverlap
open Time (Instant Period)

/-- Some member has a certificate that was issued after a point on the scale of instants. -/
def Cluster.IssuedAfter (c : Cluster) (t : Int) : Prop :=
  ∃ m ∈ c.members, ∃ certificate, m.certificate = some certificate ∧
    certificate.notBefore.IsAfter t

/-- Some member has a certificate. -/
def Cluster.IsCertified (c : Cluster) : Prop := ∃ m ∈ c.members, m.certificate ≠ none

theorem Cluster.IssuedAfter.of_le {c : Cluster} {t u : Int} (h : c.IssuedAfter u) (hle : t ≤ u) :
    c.IssuedAfter t := by
  obtain ⟨m, hm, certificate, hcertificate, hafter⟩ := h
  exact ⟨m, hm, certificate, hcertificate, hafter.of_le hle⟩

theorem Cluster.IssuedAfter.isCertified {c : Cluster} {t : Int} (h : c.IssuedAfter t) :
    c.IsCertified := by
  obtain ⟨m, hm, certificate, hcertificate, -⟩ := h
  exact ⟨m, hm, by simp [hcertificate]⟩

/-- All certificates were issued after a point before the earliest instant. -/
theorem Cluster.issuedAfter_iff_of_lt {c : Cluster} {t : Int}
    (h : t < Instant.earliestNanoseconds) : c.IssuedAfter t ↔ c.IsCertified := by
  refine ⟨IssuedAfter.isCertified, ?_⟩
  rintro ⟨m, hm, hcertified⟩
  obtain ⟨certificate, hcertificate⟩ := Option.ne_none_iff_exists'.1 hcertified
  exact ⟨m, hm, certificate, hcertificate, Instant.isAfter_of_lt h⟩

namespace Rule

theorem admits_grace_iff_issuedAfter {g : Period} {now : Instant} (hnow : now.nanos < 10 ^ 9)
    {c : Cluster} : (grace (some g)).admits c now = true ↔
      c.IssuedAfter (now.nanoseconds - g.nanoseconds) := by
  rw [admits_grace_iff]
  simp only [Option.some.injEq, forall_eq', ← Instant.isAfter_minus_iff hnow]
  unfold Cluster.IssuedAfter Entry.notBefore?
  refine exists_congr fun m => and_congr_right fun _ => ?_
  simp only [Option.map_eq_some_iff, exists_exists_and_eq_and]

/-- A longer period, or the same one at an earlier time, admits what the rule admits already. -/
theorem admits_grace_of_le {g g' : Period} {now now' : Instant} (hnow : now.nanos < 10 ^ 9)
    (hnow' : now'.nanos < 10 ^ 9) (hg : g.nanoseconds ≤ g'.nanoseconds)
    (hle : now'.nanoseconds ≤ now.nanoseconds) {c : Cluster}
    (h : (grace (some g)).admits c now = true) : (grace (some g')).admits c now' = true := by
  rw [admits_grace_iff_issuedAfter hnow] at h
  exact (admits_grace_iff_issuedAfter hnow').2 (h.of_le (by omega))

/-- **The period of grace is exact.**  Outside of a leap second, whatever the period and the time,
a cluster is admitted exactly when a member has a certificate that was issued after the time less
the period, in integers.  When the period is too long to be taken off, or leads to a point before
the earliest instant, every cluster with a certified member is admitted; one without is never.  No
cluster is lost when the period gets longer or the time earlier. -/
theorem grace_exact (g : Period) (now : Instant) (hnow : now.nanos < 10 ^ 9) :
    (∀ c, (grace (some g)).admits c now = true ↔
      c.IssuedAfter (now.nanoseconds - g.nanoseconds)) ∧
    (Instant.longestNanoseconds < g.nanoseconds ∨
        now.nanoseconds - g.nanoseconds < Instant.earliestNanoseconds →
      ∀ c, (grace (some g)).admits c now = true ↔ c.IsCertified) ∧
    (∀ c, ¬ c.IsCertified → (grace (some g)).admits c now = false) ∧
    (∀ (g' : Period) (now' : Instant) (c : Cluster), now'.nanos < 10 ^ 9 →
      g.nanoseconds ≤ g'.nanoseconds → now'.nanoseconds ≤ now.nanoseconds →
      (grace (some g)).admits c now = true → (grace (some g')).admits c now' = true) := by
  refine ⟨fun c => admits_grace_iff_issuedAfter hnow, fun hlimit c => ?_, fun c hc => ?_,
    fun g' now' c hnow' hg hle h => admits_grace_of_le hnow hnow' hg hle h⟩
  · have hbefore : now.nanoseconds - g.nanoseconds < Instant.earliestNanoseconds :=
      hlimit.elim Instant.minus_lt_of_longest_lt id
    rw [admits_grace_iff_issuedAfter hnow, Cluster.issuedAfter_iff_of_lt hbefore]
  · rw [← Bool.not_eq_true, admits_grace_iff_issuedAfter hnow]
    exact fun h => hc h.isCertified

/-- The overlap of an entry without a certificate and one with a certificate of a given instant. -/
def issuedAt (i : Instant) : Cluster :=
  let resources := ResourceSet.ofList [.asn .full]
  ⟨.ofResources "a.cer" resources (Path.root.child 0),
    .ofCertificate "b.cer" ⟨"b", resources, none, i, i⟩ (Path.root.child 1), resources⟩

theorem issuedAfter_issuedAt_iff {i : Instant} {t : Int} :
    (issuedAt i).IssuedAfter t ↔ i.IsAfter t := by
  simp [Cluster.IssuedAfter, Cluster.members, issuedAt, Entry.ofResources, Entry.ofCertificate]

/-- With an hour of grace at the second 0, a certificate of the second -3600 is too old and one of a
nanosecond later is not.  The longest of all periods cannot be taken off, and admits both. -/
theorem grace_exact_oneHour : ∃ (now old new : Instant) (hour longest : Period),
    Instant.of? 0 0 = some now ∧ Instant.of? (-3600) 0 = some old ∧
    Instant.of? (-3600) 1 = some new ∧ Period.of? 3600 0 = some hour ∧
    Period.of? (2 ^ 64 - 1) (10 ^ 9 - 1) = some longest ∧ now.nanos < 10 ^ 9 ∧
    (grace (some hour)).admits (issuedAt old) now = false ∧
    (grace (some hour)).admits (issuedAt new) now = true ∧
    (grace (some longest)).admits (issuedAt old) now = true := by
  let now : Instant := ⟨0, 0, by decide, by decide, by decide⟩
  let old : Instant := ⟨-3600, 0, by decide, by decide, by decide⟩
  let new : Instant := ⟨-3600, 1, by decide, by decide, by decide⟩
  let hour : Period := ⟨3600, 0, by decide, by decide⟩
  let longest : Period := ⟨2 ^ 64 - 1, 10 ^ 9 - 1, by decide, by decide⟩
  obtain ⟨hour_exact, -⟩ := grace_exact hour now (by decide)
  obtain ⟨-, longest_exact, -⟩ := grace_exact longest now (by decide)
  have hold : (grace (some hour)).admits (issuedAt old) now = false := by
    rw [← Bool.not_eq_true, hour_exact, issuedAfter_issuedAt_iff]
    decide
  have hnew : (grace (some hour)).admits (issuedAt new) now = true := by
    rw [hour_exact, issuedAfter_issuedAt_iff]
    decide
  have hlongest : (grace (some longest)).admits (issuedAt old) now = true := by
    rw [longest_exact (.inl (by decide))]
    exact ⟨_, .tail _ (.head _), Option.some_ne_none _⟩
  exact ⟨now, old, new, hour, longest, rfl, rfl, rfl, rfl, rfl, by decide, hold, hnew, hlongest⟩

end Rule
end RpkiOverlap

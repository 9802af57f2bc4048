import Mathlib.Logic.Basic
import RpkiOverlap.Overlap.Policy

/-! # What a configuration wants of a cluster

`Config.Wants` says without rules which clusters are worth reporting, and `admits_ofConfig_iff`
that the rules of a configuration admit exactly those.
-/
namespace RpkiOverlap
open Time (Instant)

/-- A configuration wants a cluster of which no member is ignored, all members publish where it
looks, and some member is new. -/
structure Config.Wants (config : Config) (now : Instant) (k : Cluster) : Prop where
  /-- No member's URI fits a pattern of ignored overlaps. -/
  not_ignored : ∀ m ∈ k.members, config.ignoredBy m.uri = none
  /-- If any place is tracked, the manifest of each member is at a tracked place. -/
  tracked : config.tracked ≠ [] → ∀ m ∈ k.members,
    ∃ uri, m.manifestUri? = some uri ∧ ∃ p ∈ config.tracked, p.fits uri = true
  /-- If there is a period of grace, some member was issued after it began. -/
  recent : ∀ g, config.grace = some g → ∃ m ∈ k.members, ∃ i, m.notBefore? = some i ∧
    ∀ start, now.minus? g = some start → i.Later start

namespace Rule

theorem admits_ignored_iff {config : Config} {now : Instant} {k : Cluster} :
    (ignored config.ignored).admits k now = true ↔
      ∀ m ∈ k.members, config.ignoredBy m.uri = none := by
  simp [ignored, Config.ignoredBy]

theorem admits_tracked_iff {patterns : List Pattern} {now : Instant} {k : Cluster} :
    (tracked patterns).admits k now = true ↔ (patterns ≠ [] → ∀ m ∈ k.members,
      ∃ uri, m.manifestUri? = some uri ∧ ∃ p ∈ patterns, p.fits uri = true) := by
  rw [tracked, Bool.or_eq_true, List.isEmpty_iff, List.all_eq_true, or_iff_not_imp_left]
  simp only [ne_eq, Option.any_eq_true, List.any_eq_true]

theorem isWithin_iff {g : Time.Period} {now i : Instant} :
    isWithin g now i = true ↔ ∀ start, now.minus? g = some start → i.Later start := by
  rw [isWithin, Option.all_eq_true]
  simp only [decide_eq_true_eq]

theorem admits_grace_iff {period : Option Time.Period} {now : Instant} {k : Cluster} :
    (grace period).admits k now = true ↔ ∀ g, period = some g →
      ∃ m ∈ k.members, ∃ i, m.notBefore? = some i ∧
        ∀ start, now.minus? g = some start → i.Later start := by
  rw [grace, Option.all_eq_true]
  simp only [List.any_eq_true, List.mem_filterMap, isWithin_iff]
  refine forall_congr' fun g => imp_congr_right fun _ => ?_
  constructor
  · rintro ⟨i, ⟨m, hm, hi⟩, hlater⟩
    exact ⟨m, hm, i, hi, hlater⟩
  · rintro ⟨m, hm, i, hi, hlater⟩
    exact ⟨i, ⟨m, hm, hi⟩, hlater⟩

end Rule

theorem Policy.admits_ofConfig_iff {config : Config} {now : Instant} {k : Cluster} :
    (ofConfig config).admits now k = true ↔ config.Wants now k := by
  have hrules : (ofConfig config).admits now k = true ↔
      (Rule.ignored config.ignored).admits k now = true ∧
        (Rule.tracked config.tracked).admits k now = true ∧
          (Rule.grace config.grace).admits k now = true := by
    simp [admits, ofConfig]
  rw [hrules, Rule.admits_ignored_iff, Rule.admits_tracked_iff, Rule.admits_grace_iff]
  constructor
  · rintro ⟨hignored, htracked, hrecent⟩
    exact ⟨hignored, htracked, hrecent⟩
  · rintro ⟨hignored, htracked, hrecent⟩
    exact ⟨hignored, htracked, hrecent⟩

end RpkiOverlap

import Mathlib.Data.List.Basic
import RpkiOverlap.Proofs.Overlap.Policy

/-! # What a policy keeps and what it reports

A policy answers two questions about a list of clusters, `Policy.filter` and `Policy.events`.  Both
answers come from one pass (`Policy.sweep`), which asks the rules about a cluster in order and stops
at the first one that rejects it (`Policy.ask`).

* The pass finds the clusters of `Policy.filter` and makes the reports of `Policy.events`
  (`sweep_eq`).
* A cluster that some rule rejects gives rise to one report, which names the first such rule and the
  two members (`ReportsRejection`, `exists_reportsRejection`).  The others are passed over in
  silence (`events_eq_nil_iff`).
* The order of the rules decides which one is named, and not what is kept (`filter_perm`).

`filter_exact` puts this together with what a configuration wants of a cluster.
-/
namespace RpkiOverlap
open Time (Instant)

instance (config : Config) (now : Instant) : DecidablePred (config.Wants now) :=
  fun _ => decidable_of_iff _ Policy.admits_ofConfig_iff

namespace Policy

/-- Asks some rules about a cluster, in order, up to the first one that rejects it.  The answer and
the reports. -/
def ask (now : Instant) (c : Cluster) : List Rule → Bool × List Event
  | [] => (true, [])
  | r :: rest => if r.admits c now then ask now c rest else (false, [rejectedEvent c r])

/-- Asks the rules about some clusters, one after the other.  The clusters kept and the reports. -/
def sweep (p : Policy) (now : Instant) : List Cluster → List Cluster × List Event
  | [] => ([], [])
  | c :: rest =>
    let (admitted, reports) := ask now c p.rules
    let (kept, later) := p.sweep now rest
    (if admitted then c :: kept else kept, reports ++ later)

/-- A report says that a cluster was filtered: it names the members, and the first rule that rejects
the cluster. -/
structure ReportsRejection (p : Policy) (now : Instant) (c : Cluster) (e : Event) : Prop where
  level : e.level = .debug
  message : e.field? "message" = some "overlap filtered"
  first : e.field? "first" = some c.first.uri
  second : e.field? "second" = some c.second.uri
  policy : ∃ before r after, p.rules = before ++ r :: after ∧
    (∀ q ∈ before, q.admits c now = true) ∧ r.admits c now = false ∧
      e.field? "policy" = some r.name

variable {p q : Policy} {now : Instant} {c : Cluster} {clusters : List Cluster}

theorem admits_iff : p.admits now c = true ↔ ∀ r ∈ p.rules, r.admits c now = true :=
  List.all_eq_true

theorem firstRejecting?_eq_none_iff : p.firstRejecting? now c = none ↔ p.admits now c = true := by
  rw [firstRejecting?, List.find?_eq_none, admits_iff]
  simp only [Bool.not_eq_true', Bool.not_eq_false]

theorem firstRejecting?_eq_some_iff {r : Rule} : p.firstRejecting? now c = some r ↔
    r.admits c now = false ∧ ∃ before after, p.rules = before ++ r :: after ∧
      ∀ q ∈ before, q.admits c now = true := by
  rw [firstRejecting?, List.find?_eq_some_iff_append]
  simp only [Bool.not_eq_true', Bool.not_not]

theorem events_singleton : p.events now [c] =
    ((p.firstRejecting? now c).map (rejectedEvent c)).toList := by
  cases hfirst : p.firstRejecting? now c <;> simp [events, hfirst]

/-! ## One pass -/

theorem ask_eq (rules : List Rule) : ask now c rules =
    ((⟨rules⟩ : Policy).admits now c, (⟨rules⟩ : Policy).events now [c]) := by
  induction rules with
  | nil => rfl
  | cons r rest ih =>
    rw [ask, ih, events_singleton, events_singleton]
    cases hr : r.admits c now with
    | false => simp [admits, firstRejecting?, hr]
    | true => simp [admits, firstRejecting?, hr]

theorem events_eq_flatMap (p : Policy) (now : Instant) (clusters : List Cluster) :
    p.events now clusters = clusters.flatMap fun c => p.events now [c] := by
  simp only [events, List.filterMap_eq_flatMap_toList, List.flatMap_singleton]

theorem sweep_eq (p : Policy) (now : Instant) (clusters : List Cluster) :
    p.sweep now clusters = (p.filter now clusters, p.events now clusters) := by
  induction clusters with
  | nil => rfl
  | cons c rest ih =>
    have hreports : p.events now (c :: rest) = p.events now [c] ++ p.events now rest := by
      rw [events_eq_flatMap, List.flatMap_cons, ← events_eq_flatMap]
    rw [sweep, ih, ask_eq, hreports]
    simp only [filter, List.filter_cons]

/-! ## The reports on one cluster -/

theorem events_eq_nil_iff : p.events now [c] = [] ↔ p.admits now c = true := by
  rw [events_singleton, Option.toList_eq_nil_iff, Option.map_eq_none_iff,
    firstRejecting?_eq_none_iff]

theorem exists_reportsRejection (h : p.admits now c = false) :
    ∃ e, p.events now [c] = [e] ∧ p.ReportsRejection now c e := by
  have hrejected : p.firstRejecting? now c ≠ none := by
    rw [Ne, firstRejecting?_eq_none_iff, h]
    exact Bool.false_ne_true
  obtain ⟨r, hfirst⟩ := Option.ne_none_iff_exists'.1 hrejected
  obtain ⟨hr, before, after, hrules, hbefore⟩ := firstRejecting?_eq_some_iff.1 hfirst
  refine ⟨rejectedEvent c r, by rw [events_singleton, hfirst]; rfl, rfl, rfl, rfl, rfl, ?_⟩
  exact ⟨before, r, after, hrules, hbefore, hr, rfl⟩

/-! ## The clusters kept -/

theorem mem_filter_iff : c ∈ p.filter now clusters ↔ c ∈ clusters ∧ p.admits now c = true :=
  List.mem_filter

theorem filter_ofConfig (config : Config) (now : Instant) (clusters : List Cluster) :
    (ofConfig config).filter now clusters = clusters.filter fun c => config.Wants now c := by
  refine List.filter_congr fun c _ => ?_
  rw [Bool.eq_iff_iff, admits_ofConfig_iff, decide_eq_true_iff]

/-- What was kept is kept again, and nothing is reported of it. -/
theorem sweep_filter (p : Policy) (now : Instant) (clusters : List Cluster) :
    p.sweep now (p.filter now clusters) = (p.filter now clusters, []) := by
  have hkept : p.filter now (p.filter now clusters) = p.filter now clusters :=
    List.filter_eq_self.2 fun c hc => (mem_filter_iff.1 hc).2
  have hsilent : p.events now (p.filter now clusters) = [] := by
    rw [events_eq_flatMap, List.flatMap_eq_nil_iff]
    exact fun c hc => events_eq_nil_iff.2 (mem_filter_iff.1 hc).2
  rw [sweep_eq, hkept, hsilent]

/-- The order of the rules does not matter to the clusters. -/
theorem filter_perm (h : p.rules.Perm q.rules) (now : Instant) (clusters : List Cluster) :
    p.filter now clusters = q.filter now clusters := by
  refine List.filter_congr fun c _ => ?_
  rw [Bool.eq_iff_iff, admits_iff, admits_iff]
  simp only [h.mem_iff]

/-- **A policy keeps what is wanted and accounts for the rest.**  The policy of a configuration
keeps the clusters that the configuration wants, in their order.  Of any policy: one pass that stops
at the first rejecting rule keeps the clusters and makes the reports; a second pass changes nothing
and reports nothing; the rules may stand in any order; and each cluster that is not kept is reported
once, with the first rule that rejects it, and a cluster that is kept is not. -/
theorem filter_exact (config : Config) (now : Instant) (clusters : List Cluster) :
    (ofConfig config).filter now clusters = clusters.filter (fun c => config.Wants now c) ∧
    ∀ p : Policy,
      p.sweep now clusters = (p.filter now clusters, p.events now clusters) ∧
      p.sweep now (p.filter now clusters) = (p.filter now clusters, []) ∧
      (∀ q : Policy, p.rules.Perm q.rules → p.filter now clusters = q.filter now clusters) ∧
      p.events now clusters = clusters.flatMap (fun c => p.events now [c]) ∧
      ∀ c ∈ clusters, (c ∈ p.filter now clusters ∧ p.events now [c] = []) ∨
        (c ∉ p.filter now clusters ∧
          ∃ e, p.events now [c] = [e] ∧ p.ReportsRejection now c e) := by
  refine ⟨filter_ofConfig config now clusters, fun p => ⟨sweep_eq p now clusters,
    sweep_filter p now clusters, fun q hperm => filter_perm hperm now clusters,
    events_eq_flatMap p now clusters, fun c hc => ?_⟩⟩
  by_cases hadmits : p.admits now c = true
  · exact .inl ⟨mem_filter_iff.2 ⟨hc, hadmits⟩, events_eq_nil_iff.2 hadmits⟩
  · exact .inr ⟨fun hkept => hadmits (mem_filter_iff.1 hkept).2,
      exists_reportsRejection (Bool.eq_false_iff.2 hadmits)⟩

end Policy
end RpkiOverlap

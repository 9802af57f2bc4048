import RpkiOverlap.Proofs.Analysis
import RpkiOverlap.Run.Basic

/-! # Runs one after the other

A service performs runs again and again on the same gauges.  `outcomes` and `gaugesAfter` are what
such a series leaves behind, and `series_exact` says what it is whatever the runs are given.

* One run is a `Lifecycle`: its start is reported before everything else, its end or its failure
  after everything else, and nothing in between marks a boundary (`quiet_run`).
* `Gauges.Tells` says what the gauges tell of the runs so far.  It holds of new gauges, every run
  preserves it (`Gauges.Tells.perform`), and so it holds after every series (`Gauges.Tells.run`).
-/
namespace RpkiOverlap
open Time (Instant)

/-! ## Series of runs -/

/-- What one run is given. -/
structure Job where
  context : RunContext
  snapshot : Snapshot
  decoder : Decoder
  config : Config
  now : Instant
  timing : Timing := {}

/-- Performs the run of a job. -/
def Job.perform (j : Job) (g : Gauges) : RunOutcome :=
  Run.perform j.context j.snapshot j.decoder j.config j.now j.timing g

/-- What the runs of jobs leave behind, when each finds the gauges of the one before it. -/
def outcomes (g : Gauges) : List Job → List RunOutcome
  | [] => []
  | j :: jobs => j.perform g :: outcomes (j.perform g).gauges jobs

/-- The gauges after the runs of jobs. -/
def gaugesAfter (g : Gauges) : List Job → Gauges
  | [] => g
  | j :: jobs => gaugesAfter (j.perform g).gauges jobs

theorem length_outcomes (g : Gauges) (jobs : List Job) :
    (outcomes g jobs).length = jobs.length := by
  induction jobs generalizing g with
  | nil => rfl
  | cons j jobs ih => rw [outcomes, List.length_cons, List.length_cons, ih]

theorem gaugesAfter_append (g : Gauges) (before after : List Job) :
    gaugesAfter g (before ++ after) = gaugesAfter (gaugesAfter g before) after := by
  induction before generalizing g with
  | nil => rfl
  | cons j before ih => exact ih _

/-! ## Events between the boundaries -/

/-- No event of a list marks a boundary. -/
def Quiet (events : List Event) : Prop := ∀ e ∈ events, e.field? "event" = none

theorem Quiet.append {before after : List Event} (h : Quiet before) (h' : Quiet after) :
    Quiet (before ++ after) :=
  fun e he => (List.mem_append.1 he).elim (h e) (h' e)

theorem quiet_nil : Quiet [] := List.forall_mem_nil _

theorem quiet_singleton {e : Event} (h : e.field? "event" = none) : Quiet [e] :=
  List.forall_mem_singleton.2 h

theorem quiet_map {α : Type} {f : α → Event} (h : ∀ a, (f a).field? "event" = none)
    (as : List α) : Quiet (as.map f) := by
  intro e he
  obtain ⟨a, -, rfl⟩ := List.mem_map.1 he
  exact h a

theorem field?_event_faultEvent (path : Path) (fault : Fault) :
    (Visit.faultEvent path fault).field? "event" = none := by
  cases fault <;> rfl

theorem field?_event_visit (v : Visit) : v.event.field? "event" = none := by
  obtain ⟨uri, path, outcome⟩ := v
  rcases outcome with fault | ⟨e, _ | _ | fault⟩
  · exact field?_event_faultEvent path fault
  · rfl
  · rfl
  · exact field?_event_faultEvent path fault

theorem quiet_extractEvents (s : Snapshot) (d : Decoder) (trustAnchor : String) :
    Quiet (s.extractEvents d trustAnchor) :=
  (quiet_map field?_event_visit _).append (quiet_singleton rfl)

theorem quiet_detect (limits : Limits) (entries : List Entry) :
    Quiet (detect limits entries).2 := by
  by_cases hlt : limits.total < (candidates entries).length
  · rw [detect, Scan.conclude, if_pos hlt]
    exact quiet_singleton rfl
  · rw [detect, Scan.conclude, if_neg hlt]
    exact (quiet_map (fun _ => rfl) _).append (quiet_singleton rfl)

theorem quiet_policy (p : Policy) (now : Instant) (clusters : List Cluster) :
    Quiet (p.events now clusters) := by
  intro e he
  obtain ⟨c, -, he⟩ := List.mem_filterMap.1 he
  obtain ⟨r, -, rfl⟩ := Option.map_eq_some_iff.1 he
  rfl

theorem quiet_clusterEvents (r : Report) : Quiet r.clusterEvents := by
  unfold Report.clusterEvents
  split
  · exact quiet_singleton rfl
  · exact (quiet_singleton rfl).append (quiet_map (fun _ => rfl) _)

theorem quiet_resourceEvents (r : Report) : Quiet r.resourceEvents := by
  unfold Report.resourceEvents
  split
  · exact quiet_nil
  · exact quiet_singleton rfl

theorem quiet_certificateEvents (r : Report) : Quiet r.certificateEvents := by
  unfold Report.certificateEvents
  split
  · exact quiet_nil
  · exact quiet_singleton rfl

theorem quiet_report (r : Report) : Quiet r.events :=
  ((quiet_clusterEvents r).append (quiet_resourceEvents r)).append (quiet_certificateEvents r)

/-- An analysis marks no boundaries. -/
theorem quiet_run (s : Snapshot) (d : Decoder) (config : Config) (now : Instant) :
    Quiet (Analysis.run s d config now).2 := by
  have hextraction : ∀ n : Nat, Quiet ([Event.say .info "processing snapshot"
      [("object_count", toString s.size)]] ++ s.extractEvents d config.trustAnchor ++
      [Event.say .info "expanded certificates" [("certificate_count", toString n)]]) := fun n =>
    ((quiet_singleton rfl).append (quiet_extractEvents s d _)).append (quiet_singleton rfl)
  have hdetect := quiet_detect config.limits (s.extract d config.trustAnchor)
  simp only [Analysis.run]
  rcases hresult : detect config.limits (s.extract d config.trustAnchor) with
    ⟨fault | scan, comparison⟩
  · rw [hresult] at hdetect
    exact (hextraction _).append hdetect
  · rw [hresult] at hdetect
    exact (((hextraction _).append hdetect).append (quiet_policy _ now _)).append (quiet_report _)

/-! ## One run -/

/-- An event marks a boundary of a run. -/
def Event.Marks (e : Event) (boundary : String) : Prop :=
  e.field? "op" = some Run.op ∧ e.field? "event" = some boundary

/-- What the run of a job may leave behind.  The start is reported first and the end last, and in
between no boundary is marked.  A failure is that of a comparison that was given up; it has the
identifiers of the run, and the last report names its kind and its code. -/
inductive Lifecycle (j : Job) : RunOutcome → Prop
  | passed {run gauges first inner last} : run.context = j.context → first.Marks "start" →
      Quiet inner → last.Marks "end" →
      Lifecycle j ⟨.ok run, gauges, first :: inner ++ [last]⟩
  | failed {i gauges first inner last} : i.code = "ERR_OVERLAP_BUDGET_EXCEEDED" →
      i.runId = some j.context.runId.text → i.traceId = j.context.traceId.map TraceId.text →
      first.Marks "start" → Quiet inner →
      last.Marks "end_error" → last.field? "err_kind" = some i.kind.name →
      last.field? "err_code" = some i.code →
      Lifecycle j ⟨.error i, gauges, first :: inner ++ [last]⟩

/-- An analysis fails only by giving up the comparison. -/
theorem exists_of_fst_run_eq_error {s : Snapshot} {d : Decoder} {config : Config} {now : Instant}
    {fault : Fault} (h : (Analysis.run s d config now).1 = .error fault) :
    ∃ total limit, fault = .overlapBudgetExceeded total limit := by
  rw [Analysis.fst_run] at h
  by_cases hlt : config.limits.total < (candidates (s.extract d config.trustAnchor)).length
  · rw [detect_of_lt hlt] at h
    exact ⟨_, _, (Except.error.inj h).symm⟩
  · rw [detect_of_le (Nat.not_lt.1 hlt)] at h
    cases h

theorem Job.lifecycle (j : Job) (g : Gauges) : Lifecycle j (j.perform g) := by
  have hinner := quiet_run j.snapshot j.decoder j.config j.now
  have hfault := @exists_of_fst_run_eq_error j.snapshot j.decoder j.config j.now
  unfold Job.perform Run.perform
  rcases hrun : Analysis.run j.snapshot j.decoder j.config j.now with ⟨fault | a, events⟩
  · rw [hrun] at hinner hfault
    obtain ⟨total, limit, rfl⟩ := hfault rfl
    exact .failed rfl rfl rfl ⟨rfl, rfl⟩ hinner ⟨rfl, rfl⟩ rfl rfl
  · rw [hrun] at hinner
    exact .passed rfl ⟨rfl, rfl⟩ hinner ⟨rfl, rfl⟩

theorem forall₂_lifecycle (g : Gauges) (jobs : List Job) :
    List.Forall₂ Lifecycle jobs (outcomes g jobs) := by
  induction jobs generalizing g with
  | nil => exact .nil
  | cons j jobs ih => exact .cons (j.lifecycle g) (ih _)

/-! ## What the gauges tell -/

/-- The report of a run that passed. -/
def RunOutcome.report? (o : RunOutcome) : Option Report := o.result.toOption.map Run.report

/-- Whether a run passed. -/
def RunOutcome.passed (o : RunOutcome) : Bool := o.result.isOk

/-- The report of the last run that passed. -/
def lastReport? (os : List RunOutcome) : Option Report :=
  (os.filterMap RunOutcome.report?).getLast?

/-- A gauge is a count of a report, as far as it fits into 64 bits, or zero when there is no
report. -/
def IsCount (gauge : UInt64) (report? : Option Report) (count : Report → Nat) : Prop :=
  gauge.toNat = report?.elim 0 count % 2 ^ 64

/-- The run of a job passes and publishes its report, or it fails and is counted. -/
theorem Job.perform_cases (j : Job) (g : Gauges) :
    (∃ report, (j.perform g).passed = true ∧ (j.perform g).report? = some report ∧
      (j.perform g).gauges = g.publish report j.timing.comparison) ∨
    (j.perform g).passed = false ∧ (j.perform g).report? = none ∧
      (j.perform g).gauges = g.fail := by
  unfold Job.perform Run.perform
  rcases Analysis.run j.snapshot j.decoder j.config j.now with ⟨fault | a, events⟩
  · exact .inr ⟨rfl, rfl, rfl⟩
  · exact .inl ⟨a.report, rfl, rfl, rfl⟩

theorem lastReport?_append_of_some {os : List RunOutcome} {o : RunOutcome} {report : Report}
    (h : o.report? = some report) : lastReport? (os ++ [o]) = some report := by
  rw [lastReport?, List.filterMap_append, List.filterMap_cons_some h, List.filterMap_nil,
    List.getLast?_concat]

theorem lastReport?_append_of_none {os : List RunOutcome} {o : RunOutcome}
    (h : o.report? = none) : lastReport? (os ++ [o]) = lastReport? os := by
  rw [lastReport?, List.filterMap_append, List.filterMap_cons_none h, List.filterMap_nil,
    List.append_nil, lastReport?]

namespace Gauges

/-- What gauges tell of runs. -/
structure Tells (g : Gauges) (os : List RunOutcome) : Prop where
  passed : g.runsPassed = .ofNat (os.countP RunOutcome.passed)
  failed : g.runsFailed = .ofNat (os.countP fun o => !o.passed)
  certificates : IsCount g.certificates (lastReport? os) Report.totalCertificates
  overlappingCertificates :
    IsCount g.overlappingCertificates (lastReport? os) Report.overlappingCertificates
  overlappingResources :
    IsCount g.overlappingResources (lastReport? os) Report.overlappingResources

theorem tells_new : Tells {} [] := ⟨rfl, rfl, rfl, rfl, rfl⟩

/-- One more run is told of. -/
theorem Tells.perform {g : Gauges} {os : List RunOutcome} (h : g.Tells os) (j : Job) :
    (j.perform g).gauges.Tells (os ++ [j.perform g]) := by
  rcases j.perform_cases g with ⟨report, hpassed, hreport, hgauges⟩ | ⟨hpassed, hreport, hgauges⟩
  · have hlast : lastReport? (os ++ [j.perform g]) = some report :=
      lastReport?_append_of_some hreport
    rw [hgauges]
    refine ⟨?_, ?_, ?_, ?_, ?_⟩
    · simp [publish, h.passed, hpassed]
    · simp [publish, h.failed, hpassed]
    all_goals
      rw [hlast]
      rfl
  · have hlast : lastReport? (os ++ [j.perform g]) = lastReport? os :=
      lastReport?_append_of_none hreport
    rw [hgauges]
    refine ⟨?_, ?_, ?_, ?_, ?_⟩
    · simp [fail, h.passed, hpassed]
    · simp [fail, h.failed, hpassed]
    · rw [hlast]
      exact h.certificates
    · rw [hlast]
      exact h.overlappingCertificates
    · rw [hlast]
      exact h.overlappingResources

/-- All runs of a series are told of. -/
theorem Tells.run {g : Gauges} {os : List RunOutcome} (h : g.Tells os) (jobs : List Job) :
    (gaugesAfter g jobs).Tells (os ++ outcomes g jobs) := by
  -- the runs so far are free in the induction: each step moves one more to their end
  induction jobs generalizing g os with
  | nil => simpa [outcomes, gaugesAfter] using h
  | cons j jobs ih => simpa [outcomes, gaugesAfter] using ih (h.perform j)

end Gauges

/-- A failed run changes none of the gauges that are exported. -/
theorem Job.named_perform {j : Job} {g : Gauges} {i : Incident}
    (h : (j.perform g).result = .error i) : (j.perform g).gauges.named = g.named := by
  rcases j.perform_cases g with ⟨report, hpassed, -⟩ | ⟨-, -, hgauges⟩
  · rw [RunOutcome.passed, h] at hpassed
    cases hpassed
  · rw [hgauges]
    rfl

/-- **Gauges and lifecycle of a series of runs.**  After fewer than `2 ^ 64` runs on new gauges, the
counts of runs are those of the runs that passed and failed, and the other gauges are the counts of
the last report, or zero if there is none.  A failed run leaves them as they were, wherever in the
series it is.  Every run reports its start first and its end last, and every failure is that of a
comparison that was given up, with the identifiers of its own run. -/
theorem series_exact (jobs : List Job) (h : jobs.length < 2 ^ 64) :
    (gaugesAfter {} jobs).runsPassed.toNat = (outcomes {} jobs).countP RunOutcome.passed ∧
    (gaugesAfter {} jobs).runsFailed.toNat = (outcomes {} jobs).countP (fun o => !o.passed) ∧
    IsCount (gaugesAfter {} jobs).certificates (lastReport? (outcomes {} jobs))
      Report.totalCertificates ∧
    IsCount (gaugesAfter {} jobs).overlappingCertificates (lastReport? (outcomes {} jobs))
      Report.overlappingCertificates ∧
    IsCount (gaugesAfter {} jobs).overlappingResources (lastReport? (outcomes {} jobs))
      Report.overlappingResources ∧
    (∀ before j after i, jobs = before ++ j :: after →
      (j.perform (gaugesAfter {} before)).result = .error i →
      (gaugesAfter {} (before ++ [j])).named = (gaugesAfter {} before).named) ∧
    List.Forall₂ Lifecycle jobs (outcomes {} jobs) := by
  have htells : (gaugesAfter {} jobs).Tells (outcomes {} jobs) := Gauges.tells_new.run jobs
  have hcount : ∀ p, (outcomes {} jobs).countP p < 2 ^ 64 := by
    intro p
    calc (outcomes {} jobs).countP p ≤ (outcomes {} jobs).length := List.countP_le_length
      _ = jobs.length := length_outcomes {} jobs
      _ < 2 ^ 64 := h
  refine ⟨?_, ?_, htells.certificates, htells.overlappingCertificates,
    htells.overlappingResources, ?_, forall₂_lifecycle {} jobs⟩
  · rw [htells.passed]
    exact UInt64.toNat_ofNat_of_lt (hcount _)
  · rw [htells.failed]
    exact UInt64.toNat_ofNat_of_lt (hcount _)
  · intro before j after i _ herror
    rw [gaugesAfter_append]
    exact Job.named_perform herror

/-- The first instant of 1970. -/
def epoch : Instant := (Instant.of? 0 0).get (by decide)

/-- A decoder for which every object is a certificate of all AS numbers or a manifest of two
certificates, and only the trust anchor names its manifest. -/
def twoChildren : Decoder where
  certificate uri _ := .ok (.resource ⟨uri, .ofList [.asn .full],
    if uri = "ta.cer" then some "ta.mft" else none, epoch, epoch⟩)
  manifest _ _ := .ok ⟨["a.cer", "b.cer"]⟩

/-- The analysis of two overlapping certificates with a limit on the number of overlaps. -/
def overlappingChildren (total : Nat) : Job where
  context := ⟨⟨"run"⟩, none⟩
  snapshot := .ofList (["ta.cer", "ta.mft", "a.cer", "b.cer"].map fun uri => (uri, ⟨#[0]⟩))
  decoder := twoChildren
  config := (Config.new "ta.cer").withLimits { total }
  now := epoch

/-- Of three runs the second passes, and its report is what the gauges show after the third. -/
theorem series_exact_overlappingChildren :
    ([0, 1, 0].map overlappingChildren).length < 2 ^ 64 ∧
    let g := gaugesAfter {} ([0, 1, 0].map overlappingChildren)
    g.runsPassed.toNat = 1 ∧ g.runsFailed.toNat = 2 ∧ g.certificates.toNat = 3 ∧
      g.overlappingCertificates.toNat = 2 ∧ g.overlappingResources.toNat = 1 := by
  have hlength : ([0, 1, 0].map overlappingChildren).length < 2 ^ 64 := by decide
  obtain ⟨hpassed, hfailed, hcertificates, hmembers, hresources, -, -⟩ :=
    series_exact _ hlength
  refine ⟨hlength, hpassed.trans ?_, hfailed.trans ?_, hcertificates.trans ?_,
    hmembers.trans ?_, hresources.trans ?_⟩
  all_goals decide +kernel

end RpkiOverlap

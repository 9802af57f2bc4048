import RpkiOverlap.Analysis
import RpkiOverlap.Run.Gauges
import RpkiOverlap.Run.Identifier

/-! # Runs

A run is one analysis as an operation of a service: it reports its start and its end, sets the
gauges, and hands a failure to its caller as an `Incident` with the identifiers of the run.

`Run.perform` takes the measured times as an argument, since they decide nothing but what the
gauges and the last event say of them.
-/
namespace RpkiOverlap
open Time (Instant Period)

/-- What a run is known by. -/
structure RunContext where
  runId : RunId
  traceId : Option TraceId := none
  deriving DecidableEq, Repr

/-- How long a run took. -/
structure Timing where
  comparison : Period := Period.zero
  milliseconds : Nat := 0
  deriving DecidableEq, Repr

/-- A successful run. -/
structure Run where
  context : RunContext
  report : Report
  discardedCount : Nat
  deriving DecidableEq

/-- What a run leaves behind. -/
structure RunOutcome where
  result : Except Incident Run
  gauges : Gauges
  events : List Event

namespace Run

/-- The operation that the events of runs are about. -/
def op : String := "certificate_analysis"

/-- The component that reports the events of runs. -/
def component : String := "rpkimon_engine::commands::analysis"

/-- The incident of a fault in a run. -/
def incident (context : RunContext) (fault : Fault) : Incident :=
  { fault.incident with
    runId := some context.runId.text
    traceId := context.traceId.map TraceId.text }

/-- Runs an analysis at a time and updates the gauges. -/
def perform (context : RunContext) (s : Snapshot) (d : Decoder) (config : Config)
    (now : Instant) (timing : Timing) (gauges : Gauges) : RunOutcome :=
  let started := Event.started component op
    [("trust_anchor", config.trustAnchor), ("object_count", toString s.size)]
  let (result, events) := Analysis.run s d config now
  match result with
  | .error fault =>
    let i := incident context fault
    { result := .error i
      gauges := gauges.fail
      events := started :: events ++
        [Event.failed component op timing.milliseconds i.kind.name i.code] }
  | .ok analysis =>
    { result := .ok ⟨context, analysis.report, analysis.discarded.length⟩
      gauges := gauges.publish analysis.report timing.comparison
      events := started :: events ++
        [Event.ended component op timing.milliseconds
          [("certificate_count", toString analysis.report.totalCertificates),
            ("cluster_count", toString analysis.report.clusters.length)]] }

end Run
end RpkiOverlap

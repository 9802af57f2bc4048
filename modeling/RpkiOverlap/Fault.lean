/-! # Faults

What can go wrong, as one type of causes, and the record in which a run hands a fault to
its caller.

* `Fault` has one constructor per cause; `Fault.message` is its wording.
* `Fault.Kind` is the coarse classification that alerts are built on; every kind has a
  stable code.
* `Incident` is a classified fault with the context known about it.  `Incident.render` is
  its text, and `Fault.incident` classifies a fault.
-/
namespace RpkiOverlap

/-- The causes of failure. -/
inductive Fault where
  | certificateNotFound (uri : String)
  | manifestNotFound (uri : String)
  | invalidCertificate (uri reason : String)
  | routerCertificate (uri : String)
  | invalidManifest (uri reason : String)
  | cycleDetected (uri : String)
  | invalidResource (input reason : String)
  | invalidConfig (reason : String)
  | invalidPattern (pattern reason : String)
  | overlapBudgetExceeded (total limit : Nat)
  | serialization (detail : String)
  | io (detail : String)
  | internal (detail : String)
  deriving DecidableEq, Repr

namespace Fault

/-- The wording of a fault. -/
def message : Fault → String
  | certificateNotFound uri => s!"No certificate at {uri}"
  | manifestNotFound uri => s!"No manifest at {uri}"
  | invalidCertificate uri reason => s!"Error when parsing certificate {uri}: {reason}"
  | routerCertificate uri => s!"Router certificate at {uri} has no resources"
  | invalidManifest uri reason => s!"Error when parsing manifest {uri}: {reason}"
  | cycleDetected uri => s!"Manifest chain revisits {uri}"
  | invalidResource input reason => s!"Invalid resource '{input}': {reason}"
  | invalidConfig reason => s!"Invalid configuration: {reason}"
  | invalidPattern pattern reason => s!"Invalid pattern '{pattern}': {reason}"
  | overlapBudgetExceeded total limit =>
    s!"Too many overlaps to process: {total} candidate pairs exceed the limit of {limit}"
  | serialization detail => s!"Serialization error: {detail}"
  | io detail => s!"IO error: {detail}"
  | internal detail => s!"Internal error: {detail}"

/-- The classification of faults. -/
inductive Kind where
  | invalidInput
  | invalidResource
  | invalidConfig
  | invalidPattern
  | notFound
  | invalidObject
  | routerCertificate
  | cycleDetected
  | overlapBudgetExceeded
  | io
  | serialization
  | internal
  deriving DecidableEq, Repr

/-- The stable code of a kind. -/
def Kind.code : Kind → String
  | invalidInput => "ERR_INVALID_INPUT"
  | invalidResource => "ERR_INVALID_RESOURCE"
  | invalidConfig => "ERR_INVALID_CONFIG"
  | invalidPattern => "ERR_INVALID_PATTERN"
  | notFound => "ERR_NOT_FOUND"
  | invalidObject => "ERR_INVALID_OBJECT"
  | routerCertificate => "ERR_ROUTER_CERTIFICATE"
  | cycleDetected => "ERR_CYCLE_DETECTED"
  | overlapBudgetExceeded => "ERR_OVERLAP_BUDGET_EXCEEDED"
  | io => "ERR_IO"
  | serialization => "ERR_SERIALIZATION"
  | internal => "ERR_INTERNAL"

/-- The name of a kind, as log events spell it. -/
def Kind.name : Kind → String
  | invalidInput => "InvalidInput"
  | invalidResource => "InvalidResource"
  | invalidConfig => "InvalidConfig"
  | invalidPattern => "InvalidPattern"
  | notFound => "NotFound"
  | invalidObject => "InvalidObject"
  | routerCertificate => "RouterCertificate"
  | cycleDetected => "CycleDetected"
  | overlapBudgetExceeded => "OverlapBudgetExceeded"
  | io => "Io"
  | serialization => "Serialization"
  | internal => "Internal"

end Fault

/-- A classified fault with its context: the operation, the object and its position in the
tree, and the run in which it arose. -/
structure Incident where
  kind : Fault.Kind
  op : Option String := none
  uri : Option String := none
  path : Option String := none
  runId : Option String := none
  traceId : Option String := none
  message : String := ""
  deriving DecidableEq, Repr

namespace Incident

/-- The stable code of the incident's kind. -/
def code (i : Incident) : String := i.kind.code

/-- The text of an incident: the code in brackets, then each known part of the context.  The
trace is not shown. -/
def render (i : Incident) : String :=
  let part (before after : String) : Option String → String
    | none => ""
    | some text => before ++ text ++ after
  "[" ++ i.code ++ "]"
    ++ part " in operation '" "'" i.op
    ++ (if i.message.isEmpty then "" else ": " ++ i.message)
    ++ part " (uri: " ")" i.uri
    ++ part " (path: " ")" i.path
    ++ part " (run_id: " ")" i.runId

end Incident

/-- Classifies a fault and keeps its context. -/
def Fault.incident : Fault → Incident
  | certificateNotFound uri =>
    { kind := .notFound, uri := uri, message := "No certificate at URI" }
  | manifestNotFound uri =>
    { kind := .notFound, uri := uri, message := "No manifest at URI" }
  | invalidCertificate uri reason =>
    { kind := .invalidObject, op := "decode_certificate", uri := uri, message := reason }
  | routerCertificate uri =>
    { kind := .routerCertificate, uri := uri, message := "Router certificate has no resources" }
  | invalidManifest uri reason =>
    { kind := .invalidObject, op := "decode_manifest", uri := uri, message := reason }
  | cycleDetected uri =>
    { kind := .cycleDetected, uri := uri, message := "Manifest chain revisits an ancestor" }
  | invalidResource input reason =>
    { kind := .invalidResource, message := s!"'{input}': {reason}" }
  | invalidConfig reason => { kind := .invalidConfig, message := reason }
  | invalidPattern pattern reason =>
    { kind := .invalidPattern, message := s!"'{pattern}': {reason}" }
  | overlapBudgetExceeded total limit =>
    { kind := .overlapBudgetExceeded, op := "compare_certificates",
      message := s!"{total} candidate pairs exceed the limit of {limit}" }
  | serialization detail => { kind := .serialization, message := detail }
  | io detail => { kind := .io, message := detail }
  | internal detail => { kind := .internal, message := detail }

end RpkiOverlap

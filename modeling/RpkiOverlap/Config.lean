import RpkiOverlap.Fault
import RpkiOverlap.Overlap.Limits
import RpkiOverlap.Pattern.Basic
import RpkiOverlap.Time.Period
import RpkiOverlap.Toml.Document

/-! # Configuration

What an analysis is told: where the tree starts, which overlaps do not count, and the limits
of the comparison.

* A `Config` is built step by step, from `Config.new` by `ignore?`, `track?`, `withGrace` and
  `withLimits`.
* `Settings` are the same choices as they are written down, before patterns are compiled;
  `Settings.config` builds the configuration of settings.
* `Config.ofToml` reads settings from a TOML document.  Keys that it does not know are refused,
  except in the table of limits.
-/
namespace RpkiOverlap
open Time (Period)

/-- Overlaps with a certificate whose URI fits the pattern do not count. -/
structure IgnoreRule where
  pattern : Pattern
  description : String
  deriving DecidableEq

/-- The configuration of an analysis. -/
structure Config where
  trustAnchor : String
  ignored : List IgnoreRule
  /-- Where certificates have to publish to be tracked; if there is none, all are tracked. -/
  tracked : List Pattern
  grace : Option Period
  limits : Limits
  deriving DecidableEq

/-- Why there is no configuration. -/
inductive ConfigError where
  | unreadable
  | malformed
  | blankTrustAnchor
  | badPattern (source : String)
  deriving DecidableEq, Repr

/-- The fault of a configuration error.  The wording for files, documents and expressions that
cannot be read is this library's own; what their readers say about the place is not kept. -/
def ConfigError.fault : ConfigError → Fault
  | unreadable => .io "cannot read the configuration"
  | malformed => .invalidConfig "malformed document"
  | blankTrustAnchor => .invalidConfig "trust_anchor_uri is empty"
  | badPattern source => .invalidPattern source "not a regular expression within the limits"

/-- The pattern with a given source. -/
def compilePattern (source : String) : Except ConfigError Pattern :=
  match Pattern.compile? source with
  | some p => .ok p
  | none => .error (.badPattern source)

namespace Config

/-- The configuration with a trust anchor, which ignores nothing and tracks everything. -/
def new (trustAnchor : String) : Config := ⟨trustAnchor, [], [], none, {}⟩

/-- Adds a rule about overlaps that do not count. -/
def ignore (c : Config) (source description : String) : Except ConfigError Config :=
  (compilePattern source).map fun p => { c with ignored := c.ignored ++ [⟨p, description⟩] }

/-- Adds a pattern for where certificates publish. -/
def track (c : Config) (source : String) : Except ConfigError Config :=
  (compilePattern source).map fun p => { c with tracked := c.tracked ++ [p] }

/-- Sets the time in which a new certificate may overlap. -/
def withGrace (c : Config) (grace : Period) : Config := { c with grace := some grace }

/-- Sets the limits of the comparison. -/
def withLimits (c : Config) (limits : Limits) : Config := { c with limits }

/-- The description of the first rule that a URI fits. -/
def ignoredBy (c : Config) (uri : String) : Option String :=
  (c.ignored.find? fun rule => rule.pattern.fits uri).map (·.description)

end Config

/-- A configuration as it is written down. -/
structure Settings where
  trustAnchor : String
  /-- The sources of patterns and their descriptions. -/
  ignored : List (String × String)
  tracked : List String
  grace : Option Period
  limits : Limits
  deriving DecidableEq

namespace Settings

/-- The rule of a source and its description. -/
def rule (r : String × String) : Except ConfigError IgnoreRule :=
  (compilePattern r.1).map fun p => ⟨p, r.2⟩

/-- The configuration of settings. -/
def config (s : Settings) : Except ConfigError Config := do
  if Text.trim s.trustAnchor.toList = [] then throw .blankTrustAnchor
  let ignored ← s.ignored.mapM rule
  let tracked ← s.tracked.mapM compilePattern
  return ⟨s.trustAnchor, ignored, tracked, s.grace, s.limits⟩

/-! ### TOML -/

open Toml (Item Entries)

/-- The text of a string. -/
def string? : Item → Option String
  | .string s => some s
  | _ => none

/-- A natural number. -/
def natural? : Item → Option Nat
  | .integer n => if 0 ≤ n then some n.toNat else none
  | _ => none

/-- The texts of an array of strings. -/
def strings? : Item → Option (List String)
  | .array items => items.mapM string?
  | _ => none

/-- A period in its notation. -/
def period? (item : Item) : Option Period := do
  let text ← string? item
  Period.read? text.toList

/-- Applies a reader to the item of a key, if there is one. -/
def entry? {α : Type} (entries : Entries) (key : String) (read : Item → Option α) :
    Option (Option α) :=
  match entries.lookup key with
  | none => some none
  | some item => (read item).map some

/-- Whether all keys of a table are among the given ones. -/
def hasOnly (entries : Entries) (keys : List String) : Bool :=
  entries.all fun e => keys.contains e.1

/-- A rule from the entries of its table. -/
def ruleOfEntries? (entries : Entries) : Option (String × String) := do
  guard (hasOnly entries ["regex", "description"])
  let regex ← entry? entries "regex" string?
  let description ← entry? entries "description" string?
  return (← regex, description.getD "")

/-- A rule, as a table or as an array of the pattern and the description; what follows in the
array does not count. -/
def rule? : Item → Option (String × String)
  | .table _ entries => ruleOfEntries? entries
  | .array [regex] => do return (← string? regex, "")
  | .array (regex :: description :: _) => do return (← string? regex, ← string? description)
  | _ => none

/-- A list of rules. -/
def rules? : Item → Option (List (String × String))
  | .array items => items.mapM rule?
  | .tables elements => elements.mapM ruleOfEntries?
  | _ => none

/-- The limits, as a table or as an array of the numbers in order.  Other keys of the table and
what follows in the array do not count; a date is a table without keys. -/
def limits? : Item → Option Limits
  | .table _ entries => do
    let perCertificate ← entry? entries Limits.perCertificateName natural?
    let total ← entry? entries Limits.totalName natural?
    return Limits.ofOptions perCertificate total
  | .array items => do
    let numbers ← (items.take 2).mapM natural?
    return Limits.ofOptions numbers[0]? numbers[1]?
  | .datetime => some {}
  | _ => none

/-- The settings of a document. -/
def ofEntries? (entries : Entries) : Option Settings := do
  guard (hasOnly entries ["trust_anchor_uri", "tracked_sias",
    "keyroll_publication_point_grace_period", "ignored_overlaps", "limits"])
  let trustAnchor ← entry? entries "trust_anchor_uri" string?
  let tracked ← entry? entries "tracked_sias" strings?
  let grace ← entry? entries "keyroll_publication_point_grace_period" period?
  let ignored ← entry? entries "ignored_overlaps" rules?
  let limits ← entry? entries "limits" limits?
  return ⟨← trustAnchor, ignored.getD [], tracked.getD [], grace, limits.getD {}⟩

end Settings

namespace Config

/-- Reads a configuration from a TOML document. -/
def ofToml (text : String) : Except ConfigError Config :=
  match (Toml.read? text.toList).bind Settings.ofEntries? with
  | some s => s.config
  | none => .error .malformed

/-- Reads a configuration from the bytes of a file, which may be missing. -/
def ofFile (bytes : Option ByteArray) : Except ConfigError Config :=
  match bytes.bind String.fromUTF8? with
  | some text => ofToml text
  | none => .error .unreadable

end Config
end RpkiOverlap

import RpkiOverlap.Address.V4
import RpkiOverlap.Address.V6
import RpkiOverlap.Analysis
import RpkiOverlap.Certificate
import RpkiOverlap.Config
import RpkiOverlap.Document
import RpkiOverlap.Event
import RpkiOverlap.Fault
import RpkiOverlap.Json.Printer
import RpkiOverlap.Json.Reader
import RpkiOverlap.Json.Token
import RpkiOverlap.Overlap.Cluster
import RpkiOverlap.Overlap.Detection
import RpkiOverlap.Overlap.Limits
import RpkiOverlap.Overlap.Policy
import RpkiOverlap.Overlap.Report
import RpkiOverlap.Overlap.Schedule
import RpkiOverlap.Pattern.Basic
import RpkiOverlap.Pattern.Bracket
import RpkiOverlap.Pattern.Expr
import RpkiOverlap.Pattern.Flags
import RpkiOverlap.Pattern.Reader
import RpkiOverlap.Pattern.Search
import RpkiOverlap.Proofs.Address.V4
import RpkiOverlap.Proofs.Address.V6
import RpkiOverlap.Proofs.Aliases
import RpkiOverlap.Proofs.Analysis
import RpkiOverlap.Proofs.Config
import RpkiOverlap.Proofs.Document
import RpkiOverlap.Proofs.Json.Token
import RpkiOverlap.Proofs.Json.Value
import RpkiOverlap.Proofs.Keys
import RpkiOverlap.Proofs.Overlap.Candidates
import RpkiOverlap.Proofs.Overlap.Clusters
import RpkiOverlap.Proofs.Overlap.Detection
import RpkiOverlap.Proofs.Overlap.Filter
import RpkiOverlap.Proofs.Overlap.Grace
import RpkiOverlap.Proofs.Overlap.Pairs
import RpkiOverlap.Proofs.Overlap.Permutation
import RpkiOverlap.Proofs.Overlap.Policy
import RpkiOverlap.Proofs.Overlap.Report
import RpkiOverlap.Proofs.Overlap.Schedule
import RpkiOverlap.Proofs.Overlap.Unordered
import RpkiOverlap.Proofs.Pattern.Anchored
import RpkiOverlap.Proofs.Pattern.Search
import RpkiOverlap.Proofs.Pattern.Sound
import RpkiOverlap.Proofs.Pattern.Within
import RpkiOverlap.Proofs.Range.Blocks
import RpkiOverlap.Proofs.Range.Canonical
import RpkiOverlap.Proofs.Range.Exact
import RpkiOverlap.Proofs.Range.Membership
import RpkiOverlap.Proofs.Range.Prefix
import RpkiOverlap.Proofs.Range.Word
import RpkiOverlap.Proofs.Resource.Algebra
import RpkiOverlap.Proofs.Resource.Canonical
import RpkiOverlap.Proofs.Resource.Components
import RpkiOverlap.Proofs.Resource.Grammar
import RpkiOverlap.Proofs.Resource.Notation
import RpkiOverlap.Proofs.Resource.Parts
import RpkiOverlap.Proofs.Result
import RpkiOverlap.Proofs.Run
import RpkiOverlap.Proofs.Text.Blank
import RpkiOverlap.Proofs.Time.Calendar
import RpkiOverlap.Proofs.Time.Instant
import RpkiOverlap.Proofs.Time.Timestamp
import RpkiOverlap.Proofs.Tree.Account
import RpkiOverlap.Proofs.Tree.Calls
import RpkiOverlap.Proofs.Tree.Chain
import RpkiOverlap.Proofs.Tree.Damage
import RpkiOverlap.Proofs.Tree.Position
import RpkiOverlap.Proofs.Tree.Segments
import RpkiOverlap.Range.Aligned
import RpkiOverlap.Range.Basic
import RpkiOverlap.Range.Set
import RpkiOverlap.Resource.Basic
import RpkiOverlap.Resource.Notation
import RpkiOverlap.Run.Basic
import RpkiOverlap.Run.Gauges
import RpkiOverlap.Run.Identifier
import RpkiOverlap.Snapshot
import RpkiOverlap.Text.Blank
import RpkiOverlap.Text.Numeral
import RpkiOverlap.Time.Calendar
import RpkiOverlap.Time.Instant
import RpkiOverlap.Time.Period
import RpkiOverlap.Time.Timestamp
import RpkiOverlap.Toml.Document
import RpkiOverlap.Toml.Quoted
import RpkiOverlap.Toml.Scalar
import RpkiOverlap.Tree.Extraction
import RpkiOverlap.Tree.Path
import RpkiOverlap.Unicode.Casing
import RpkiOverlap.Unicode.Category
import RpkiOverlap.Unicode.CharSet
import RpkiOverlap.Unicode.Property
import RpkiOverlap.Unicode.Query
import RpkiOverlap.Unicode.Script

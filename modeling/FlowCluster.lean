import FlowCluster.CommandLine.Argument
import FlowCluster.CommandLine.Help
import FlowCluster.CommandLine.Invocation
import FlowCluster.CommandLine.Misuse
import FlowCluster.CommandLine.Run
import FlowCluster.CommandLine.Scan
import FlowCluster.CommandLine.Scope
import FlowCluster.CommandLine.Similarity
import FlowCluster.Decimal.Binary64
import FlowCluster.Decimal.Shortest
import FlowCluster.Directory
import FlowCluster.Duration
import FlowCluster.Event
import FlowCluster.Exchange
import FlowCluster.Failure
import FlowCluster.Http.Client
import FlowCluster.Http.Network
import FlowCluster.Json.Fault
import FlowCluster.Json.Layout
import FlowCluster.Json.Number
import FlowCluster.Json.Numeral
import FlowCluster.Json.Reader
import FlowCluster.Json.Skip
import FlowCluster.Json.Text
import FlowCluster.Json.Value
import FlowCluster.Json.Written
import FlowCluster.Log.Basic
import FlowCluster.Log.Pattern
import FlowCluster.Lookup
import FlowCluster.Main
import FlowCluster.Proofs.Aftermath
import FlowCluster.Proofs.AuditTrail
import FlowCluster.Proofs.Blame
import FlowCluster.Proofs.Bodies
import FlowCluster.Proofs.CommandLine.Agreement
import FlowCluster.Proofs.CommandLine.AllOrNothing
import FlowCluster.Proofs.CommandLine.Completion
import FlowCluster.Proofs.CommandLine.Flags
import FlowCluster.Proofs.CommandLine.Given
import FlowCluster.Proofs.CommandLine.Outcome
import FlowCluster.Proofs.CommandLine.ReadBack
import FlowCluster.Proofs.CommandLine.Refusals
import FlowCluster.Proofs.CommandLine.Report
import FlowCluster.Proofs.Confinement
import FlowCluster.Proofs.Course
import FlowCluster.Proofs.Duration
import FlowCluster.Proofs.Elements
import FlowCluster.Proofs.Excerpt
import FlowCluster.Proofs.Exchange
import FlowCluster.Proofs.Extent
import FlowCluster.Proofs.FlowRoundTrip
import FlowCluster.Proofs.Following
import FlowCluster.Proofs.Http.Client
import FlowCluster.Proofs.Http.Failures
import FlowCluster.Proofs.Http.Lookups
import FlowCluster.Proofs.Json.Alike
import FlowCluster.Proofs.Json.Compact
import FlowCluster.Proofs.Json.Content
import FlowCluster.Proofs.Json.Elements
import FlowCluster.Proofs.Json.Layout
import FlowCluster.Proofs.Json.Local
import FlowCluster.Proofs.Json.Numeral
import FlowCluster.Proofs.Json.Ordered
import FlowCluster.Proofs.Json.Passage
import FlowCluster.Proofs.Json.Payload
import FlowCluster.Proofs.Json.Piece
import FlowCluster.Proofs.Json.Positional
import FlowCluster.Proofs.Json.Pretty
import FlowCluster.Proofs.Json.Punctuation
import FlowCluster.Proofs.Json.Reader
import FlowCluster.Proofs.Json.Skip
import FlowCluster.Proofs.Json.Text
import FlowCluster.Proofs.Json.Value
import FlowCluster.Proofs.Json.WholeNumber
import FlowCluster.Proofs.Json.Written
import FlowCluster.Proofs.KeyBlindness
import FlowCluster.Proofs.Lookup
import FlowCluster.Proofs.Meaning
import FlowCluster.Proofs.Pages
import FlowCluster.Proofs.Passwords
import FlowCluster.Proofs.Payloads
import FlowCluster.Proofs.Positions
import FlowCluster.Proofs.Redaction
import FlowCluster.Proofs.Refinement
import FlowCluster.Proofs.Refusals
import FlowCluster.Proofs.Reports
import FlowCluster.Proofs.RoundTrip
import FlowCluster.Proofs.Selection
import FlowCluster.Proofs.Sendings
import FlowCluster.Proofs.Separation
import FlowCluster.Proofs.Settings.Address
import FlowCluster.Proofs.Settings.Segment
import FlowCluster.Proofs.Settings.Timeout
import FlowCluster.Proofs.Stages
import FlowCluster.Proofs.Strictness
import FlowCluster.Proofs.Text.Basic
import FlowCluster.Proofs.Text.Cut
import FlowCluster.Proofs.Text.Shown
import FlowCluster.Proofs.Text.Utf8
import FlowCluster.Proofs.Url.Percent
import FlowCluster.Proofs.Url.Read
import FlowCluster.Record.Cluster
import FlowCluster.Record.Flow
import FlowCluster.Resolution
import FlowCluster.Session
import FlowCluster.Settings.Address
import FlowCluster.Settings.Basic
import FlowCluster.Text.Basic
import FlowCluster.Text.Shown
import FlowCluster.Text.Terminal
import FlowCluster.Text.Utf8
import FlowCluster.Unicode.Alphanumeric
import FlowCluster.Unicode.Composition
import FlowCluster.Unicode.Direction
import FlowCluster.Unicode.Joining
import FlowCluster.Unicode.Mark
import FlowCluster.Unicode.Pair
import FlowCluster.Unicode.Table
import FlowCluster.Url.Basic
import FlowCluster.Url.Domain.Name
import FlowCluster.Url.Domain.Punycode
import FlowCluster.Url.Domain.Replacement
import FlowCluster.Url.Ip
import FlowCluster.Url.Percent
import FlowCluster.Url.Read
import FlowCluster.Url.Segment

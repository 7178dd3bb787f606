import Sluice.Broker.Producer
import Sluice.Broker.Record
import Sluice.Broker.Settings
import Sluice.Decimal.Reading
import Sluice.Decimal.Shortest
import Sluice.DenyList.Basic
import Sluice.DenyList.Filter
import Sluice.DenyList.Load
import Sluice.DenyList.Refresh
import Sluice.DenyList.Store
import Sluice.Dialogue
import Sluice.Domain.Composition
import Sluice.Domain.Direction
import Sluice.Domain.Joining
import Sluice.Domain.Mapping
import Sluice.Domain.Reading
import Sluice.Environment.Basic
import Sluice.Environment.File
import Sluice.Event.Attributes
import Sluice.Event.Basic
import Sluice.Event.Body
import Sluice.Event.Wire
import Sluice.Fault
import Sluice.Gateway.Admission
import Sluice.Gateway.Notice
import Sluice.Gateway.Process
import Sluice.Gateway.Publishing
import Sluice.Gateway.Reply
import Sluice.Gateway.Routes
import Sluice.Gateway.Surroundings
import Sluice.Health
import Sluice.Http.Address
import Sluice.Http.Client
import Sluice.Http.Host
import Sluice.Http.Status
import Sluice.Http.Url
import Sluice.Http.UrlPath
import Sluice.Json.Failure
import Sluice.Json.Reader
import Sluice.Json.Scan
import Sluice.Json.Skip
import Sluice.Json.Value
import Sluice.Logging
import Sluice.Metrics.Basic
import Sluice.Metrics.Histogram
import Sluice.PrefixMatcher
import Sluice.Proofs.Broker.Bootstrap
import Sluice.Proofs.Broker.KeptClient
import Sluice.Proofs.Broker.Producer
import Sluice.Proofs.DenyList.Editing
import Sluice.Proofs.DenyList.Filter
import Sluice.Proofs.DenyList.Load
import Sluice.Proofs.DenyList.Pages
import Sluice.Proofs.DenyList.Progress
import Sluice.Proofs.DenyList.Rules
import Sluice.Proofs.Dialogue.Answering
import Sluice.Proofs.Dialogue.Pool
import Sluice.Proofs.Dialogue.Transcript
import Sluice.Proofs.Event.Batches
import Sluice.Proofs.Event.Body
import Sluice.Proofs.Event.Bytes
import Sluice.Proofs.Event.Meaning
import Sluice.Proofs.Event.Presentation
import Sluice.Proofs.Event.Shapes
import Sluice.Proofs.Event.Wire
import Sluice.Proofs.Gateway.Acknowledging
import Sluice.Proofs.Gateway.Admission
import Sluice.Proofs.Gateway.Alone
import Sluice.Proofs.Gateway.Answers
import Sluice.Proofs.Gateway.BestEffort
import Sluice.Proofs.Gateway.Bookkeeping
import Sluice.Proofs.Gateway.Bystanders
import Sluice.Proofs.Gateway.CallOrder
import Sluice.Proofs.Gateway.Delivery
import Sluice.Proofs.Gateway.Identity
import Sluice.Proofs.Gateway.InForce
import Sluice.Proofs.Gateway.Ledger
import Sluice.Proofs.Gateway.Marking
import Sluice.Proofs.Gateway.Oversized
import Sluice.Proofs.Gateway.Postings
import Sluice.Proofs.Gateway.Publishing
import Sluice.Proofs.Gateway.Reconciliation
import Sluice.Proofs.Gateway.Records
import Sluice.Proofs.Gateway.Requests
import Sluice.Proofs.Gateway.Resubmission
import Sluice.Proofs.Gateway.Routes
import Sluice.Proofs.Gateway.Tasks
import Sluice.Proofs.Gateway.Throttling
import Sluice.Proofs.Json.Meaning
import Sluice.Proofs.Json.Numeral
import Sluice.Proofs.Json.Objects
import Sluice.Proofs.Json.Order
import Sluice.Proofs.Json.Reader
import Sluice.Proofs.Json.Scan
import Sluice.Proofs.Json.Skip
import Sluice.Proofs.Json.Spelling
import Sluice.Proofs.Json.Tree
import Sluice.Proofs.PrefixMatcher
import Sluice.Proofs.Quota.Authority
import Sluice.Proofs.Settings.Layers
import Sluice.Proofs.Settings.Loading
import Sluice.Proofs.Settings.Precedence
import Sluice.Proofs.Settings.Single
import Sluice.Proofs.Settings.Texts
import Sluice.Proofs.Settings.Variables
import Sluice.Proofs.Text.Ascii
import Sluice.Proofs.Text.Base64
import Sluice.Proofs.Text.Base64.Canonical
import Sluice.Proofs.Text.Boundary
import Sluice.Proofs.Text.Order
import Sluice.Proofs.Throttle
import Sluice.Proofs.Throttle.Advice
import Sluice.Proofs.Throttle.Polling
import Sluice.Proofs.Time.Rfc3339
import Sluice.Quota.Authority
import Sluice.Quota.Principal
import Sluice.Settings.Basic
import Sluice.Settings.Load
import Sluice.Settings.Path
import Sluice.Settings.Reading
import Sluice.Settings.Toml
import Sluice.Settings.Tree
import Sluice.Text.Alphanumeric
import Sluice.Text.Base64
import Sluice.Text.Blank
import Sluice.Text.CodePoints
import Sluice.Text.Number
import Sluice.Text.Percent
import Sluice.Text.Punycode
import Sluice.Text.Quoted
import Sluice.Text.Scan
import Sluice.Text.Split
import Sluice.Text.Unprinted
import Sluice.Text.Utf8
import Sluice.Throttle
import Sluice.Time.Calendar
import Sluice.Time.Rfc3339

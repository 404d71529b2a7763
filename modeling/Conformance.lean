import Conformance.Config.Basic
import Conformance.Config.Environment
import Conformance.Config.Source
import Conformance.Config.Validation
import Conformance.Exchange.Response
import Conformance.Json.Printer
import Conformance.Json.Reader
import Conformance.Json.Value
import Conformance.Main
import Conformance.Matrix.Policy
import Conformance.Matrix.Resource
import Conformance.Number.Binary
import Conformance.Number.Decimal
import Conformance.Pattern.Basic
import Conformance.Pattern.Bracket
import Conformance.Pattern.Escape
import Conformance.Pattern.Matching
import Conformance.Pattern.Reader
import Conformance.Record.Config
import Conformance.Record.Fields
import Conformance.Record.Verdict
import Conformance.Record.Wizard
import Conformance.Report.Audit
import Conformance.Report.Rendering
import Conformance.Report.Summary
import Conformance.Report.Wording
import Conformance.Run.Matrix
import Conformance.Run.Command
import Conformance.Run.Program
import Conformance.Run.Request
import Conformance.Schema.Basic
import Conformance.Schema.Check
import Conformance.Schema.Compile
import Conformance.Schema.Dialect
import Conformance.Schema.Format
import Conformance.Schema.Hostname
import Conformance.Schema.Library
import Conformance.Schema.Metaschema
import Conformance.Schema.Registry
import Conformance.Settings.Document
import Conformance.Settings.Literal
import Conformance.Settings.Scalar
import Conformance.Settings.Tree
import Conformance.Storage.Disk
import Conformance.Text.Character
import Conformance.Unicode.Table
import Conformance.Unicode.Category
import Conformance.Unicode.Composition
import Conformance.Unicode.Direction
import Conformance.Unicode.Folding
import Conformance.Unicode.Joining
import Conformance.Unicode.Property
import Conformance.Unicode.Script
import Conformance.Uri.Reference
import Conformance.Url.Address
import Conformance.Url.Basic
import Conformance.Url.Domain
import Conformance.Url.Punycode
import Conformance.Url.Reader
import Conformance.Verdict.Basic
import Conformance.Verdict.Comparison
import Conformance.Wizard.Basic
import Conformance.Wizard.FieldId
import Conformance.Wizard.Gate
import Conformance.Wizard.KeyMap
import Conformance.Wizard.Scenario
import Conformance.Wizard.Surface
import Conformance.Proofs.Text.Pieces
import Conformance.Proofs.Text.Lines
import Conformance.Proofs.Wizard.Acceptance
import Conformance.Proofs.Wizard.Course
import Conformance.Proofs.Wizard.Session
import Conformance.Proofs.Wizard.Journal
import Conformance.Proofs.Wizard.Replay
import Conformance.Proofs.Verdict.Envelope
import Conformance.Proofs.Verdict.RepeatedHeader
import Conformance.Proofs.Verdict.Rewriting
import Conformance.Proofs.Run.Pool
import Conformance.Proofs.Run.PlanOrder
import Conformance.Proofs.Matrix.Plan
import Conformance.Proofs.Matrix.Routing
import Conformance.Proofs.Report.Filling
import Conformance.Proofs.Report.Lines
import Conformance.Proofs.Verdict.Body
import Conformance.Proofs.Wizard.Surface
import Conformance.Proofs.Wizard.Enabled
import Conformance.Proofs.Result
import Conformance.Proofs.Url.Laws
import Conformance.Proofs.Config.Rules
import Conformance.Proofs.Config.Valid
import Conformance.Proofs.Wizard.Element
import Conformance.Proofs.Config.Padding
import Conformance.Proofs.Config.Replayable
import Conformance.Proofs.Config.Names
import Conformance.Proofs.Schema.Registry
import Conformance.Proofs.Config.Schemas
import Conformance.Proofs.Report.Quoted
import Conformance.Proofs.Config.Lines
import Conformance.Proofs.Report.Totals
import Conformance.Proofs.Run.Finish
import Conformance.Proofs.Text.Utf8
import Conformance.Proofs.Wizard.Builtin
import Conformance.Proofs.Config.Environment
import Conformance.Proofs.Config.Load
import Conformance.Proofs.Record.Parts
import Conformance.Proofs.Config.Decoding
import Conformance.Proofs.Run.Layers
import Conformance.Proofs.Run.Workflow
import Conformance.Proofs.Run.Identity
import Conformance.Proofs.Run.Trail
import Conformance.Proofs.Json.Tokens
import Conformance.Proofs.Json.Reading
import Conformance.Proofs.Record.RoundTrip
import Conformance.Proofs.Report.AuditLog
import Conformance.Proofs.Report.Lossless
import Conformance.Proofs.Wizard.Guards
import Conformance.Proofs.Url.Characters
import Conformance.Proofs.Url.Address
import Conformance.Proofs.Url.NormalHost
import Conformance.Proofs.Url.Authority
import Conformance.Proofs.Url.Request
import Conformance.Proofs.Schema.Insertions
import Conformance.Proofs.Report.Substitution
import Conformance.Proofs.Matrix.MediaType

import CertaintyFactor.Binary64.Arithmetic
import CertaintyFactor.Binary64.Basic
import CertaintyFactor.Binary64.Rounding
import CertaintyFactor.Catalog.Edit
import CertaintyFactor.Catalog.File
import CertaintyFactor.Catalog.Format
import CertaintyFactor.Catalog.Record
import CertaintyFactor.Catalog.Snapshot
import CertaintyFactor.Catalog.Store
import CertaintyFactor.Certainty
import CertaintyFactor.Cli.Arguments
import CertaintyFactor.Cli.Diagnose
import CertaintyFactor.Cli.Error
import CertaintyFactor.Cli.Levels
import CertaintyFactor.Cli.Report
import CertaintyFactor.Cli.Request
import CertaintyFactor.Cli.Run
import CertaintyFactor.Cli.Sessions
import CertaintyFactor.Cli.Style
import CertaintyFactor.Cli.Table
import CertaintyFactor.Cli.Validate
import CertaintyFactor.Decimal.Basic
import CertaintyFactor.Decimal.Fixed
import CertaintyFactor.Decimal.Layout
import CertaintyFactor.Decimal.Numeral
import CertaintyFactor.Decimal.Shortest
import CertaintyFactor.Disk.Basic
import CertaintyFactor.Disk.FileTree
import CertaintyFactor.Disk.Path
import CertaintyFactor.Document.Catalog
import CertaintyFactor.Document.Diagnosis
import CertaintyFactor.Environment
import CertaintyFactor.Evaluation
import CertaintyFactor.Explanation
import CertaintyFactor.Json.Error
import CertaintyFactor.Json.Number
import CertaintyFactor.Json.Reader
import CertaintyFactor.Json.Schema
import CertaintyFactor.Json.Schema.Read
import CertaintyFactor.Json.Skip
import CertaintyFactor.Json.Text
import CertaintyFactor.Json.Tree
import CertaintyFactor.Json.Value
import CertaintyFactor.Json.Write
import CertaintyFactor.Level
import CertaintyFactor.Main
import CertaintyFactor.Proofs.Binary64.Rounding
import CertaintyFactor.Proofs.Decimal.Digits
import CertaintyFactor.Proofs.Decimal.Shortest
import CertaintyFactor.Proofs.Disk.FileTree
import CertaintyFactor.Proofs.Document.Fields
import CertaintyFactor.Proofs.Document.Summary
import CertaintyFactor.Proofs.Evaluation.Candidates
import CertaintyFactor.Proofs.Evaluation.Ranking
import CertaintyFactor.Proofs.Evaluation.Summary
import CertaintyFactor.Proofs.Json.Line
import CertaintyFactor.Proofs.Json.Number
import CertaintyFactor.Proofs.Json.NumberRange
import CertaintyFactor.Proofs.Json.NumberText
import CertaintyFactor.Proofs.Json.Reader
import CertaintyFactor.Proofs.Json.Steady
import CertaintyFactor.Proofs.Json.Written
import CertaintyFactor.Proofs.Session.Contents
import CertaintyFactor.Proofs.Session.Record
import CertaintyFactor.Proofs.Session.Recorded
import CertaintyFactor.Proofs.Session.Store
import CertaintyFactor.Proofs.Session.Torn
import CertaintyFactor.Proofs.Text.ByteOrder
import CertaintyFactor.Proofs.Text.Line
import CertaintyFactor.Proofs.Text.Utf8
import CertaintyFactor.Proofs.Time.Calendar
import CertaintyFactor.Proofs.Time.Rfc3339
import CertaintyFactor.Proofs.Uuid
import CertaintyFactor.Recommendation
import CertaintyFactor.Role
import CertaintyFactor.Selection
import CertaintyFactor.Selection.Argument
import CertaintyFactor.Service
import CertaintyFactor.Session.Record
import CertaintyFactor.Session.Recorder
import CertaintyFactor.Session.Store
import CertaintyFactor.Settings
import CertaintyFactor.Settings.Key
import CertaintyFactor.Settings.Load
import CertaintyFactor.Settings.Read
import CertaintyFactor.Settings.Value
import CertaintyFactor.Summary
import CertaintyFactor.Text.Blank
import CertaintyFactor.Text.Cased
import CertaintyFactor.Text.Columns
import CertaintyFactor.Text.Columns.Char
import CertaintyFactor.Text.Emoji
import CertaintyFactor.Text.Ligature
import CertaintyFactor.Text.Line
import CertaintyFactor.Text.LowerCase
import CertaintyFactor.Text.Quoted
import CertaintyFactor.Text.Ranges
import CertaintyFactor.Text.Unprintable
import CertaintyFactor.Time.Instant
import CertaintyFactor.Time.Rfc3339
import CertaintyFactor.Toml.Number
import CertaintyFactor.Toml.Parse
import CertaintyFactor.Toml.Table
import CertaintyFactor.Toml.Value
import CertaintyFactor.Uuid
import CertaintyFactor.Warning
import CertaintyFactor.Proofs.Catalog.Consistency
import CertaintyFactor.Proofs.Evaluation.Consistent
import CertaintyFactor.Proofs.Evaluation.Joined
import CertaintyFactor.Proofs.Catalog.Run
import CertaintyFactor.Proofs.Disk.Faults
import CertaintyFactor.Proofs.Session.Framing
import CertaintyFactor.Proofs.Explanation
import CertaintyFactor.Proofs.Catalog.Integrity
import CertaintyFactor.Proofs.Evaluation.Strict
import CertaintyFactor.Proofs.Service.Run
import CertaintyFactor.Proofs.Binary64.Order
import CertaintyFactor.Proofs.Service.Echo
import CertaintyFactor.Proofs.Evaluation.Scales
import CertaintyFactor.Proofs.Binary64.Nearest
import CertaintyFactor.Proofs.Certainty.Unit
import CertaintyFactor.Proofs.Evaluation.Bounded
import CertaintyFactor.Proofs.Certainty.Exact
import CertaintyFactor.Proofs.Evaluation.Evidence
import CertaintyFactor.Proofs.Traversal
import CertaintyFactor.Proofs.Evaluation.Reports
import CertaintyFactor.Proofs.Evaluation.Verdicts
import CertaintyFactor.Proofs.Evaluation.Parts
import CertaintyFactor.Proofs.Evaluation.RuleOrder
import CertaintyFactor.Proofs.Catalog.Records
import CertaintyFactor.Proofs.Catalog.Updates
import CertaintyFactor.Proofs.Catalog.LastStored
import CertaintyFactor.Proofs.Evaluation.Dangling
import CertaintyFactor.Proofs.Service.Warnings
import CertaintyFactor.Proofs.Catalog.References
import CertaintyFactor.Proofs.Json.Layout
import CertaintyFactor.Proofs.Document.Catalog
import CertaintyFactor.Proofs.Json.ShortNumber
import CertaintyFactor.Proofs.Session.Stored
import CertaintyFactor.Proofs.Catalog.Removals
import CertaintyFactor.Proofs.Disk.Ways
import CertaintyFactor.Proofs.Evaluation.Ties
import CertaintyFactor.Proofs.Settings.Load
import CertaintyFactor.Proofs.Cli.Diagnose
import CertaintyFactor.Proofs.Cli.TwoRuns
import CertaintyFactor.Proofs.Catalog.Commuting
import CertaintyFactor.Proofs.Explanation.Cursors
import CertaintyFactor.Proofs.Evaluation.EntryOrder
import CertaintyFactor.Proofs.Catalog.File
import CertaintyFactor.Proofs.Text.Blank
import CertaintyFactor.Proofs.Selection.Argument
import CertaintyFactor.Proofs.Binary64.Difference
import CertaintyFactor.Proofs.Selection.Answer
import CertaintyFactor.Proofs.Json.Tagged
import CertaintyFactor.Proofs.Document.Warning

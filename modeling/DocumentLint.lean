import DocumentLint.Text.Blank
import DocumentLint.Text.Fields
import DocumentLint.Text.Word
import DocumentLint.Text.Quoted
import DocumentLint.Text.Utf8
import DocumentLint.Path.Basic
import DocumentLint.Path.Name
import DocumentLint.Path.Order
import DocumentLint.Path.Join
import DocumentLint.Path.Map
import DocumentLint.Text.Digits
import DocumentLint.Text.Occurrence
import DocumentLint.Text.ControlSequence
import DocumentLint.Diagnostic.Severity
import DocumentLint.Diagnostic.ColumnRange
import DocumentLint.Diagnostic.Record
import DocumentLint.Diagnostic.Line
import DocumentLint.Diagnostic.Transcript
import DocumentLint.Language
import DocumentLint.Host.ErrorNumber
import DocumentLint.Host.Fault
import DocumentLint.Linter.Settings
import DocumentLint.Linter.Failure
import DocumentLint.Linter.Command
import DocumentLint.Linter.Report
import DocumentLint.Session.Snapshot
import DocumentLint.Session.Store
import DocumentLint.Session.Completion
import DocumentLint.Session.Basic
import DocumentLint.Session.Step
import DocumentLint.Decimal.Shortest
import DocumentLint.Config.Value
import DocumentLint.Config.Decode
import DocumentLint.Config.Expansion
import DocumentLint.Toml.Space
import DocumentLint.Toml.Quotation
import DocumentLint.Toml.Scalar
import DocumentLint.Toml.Tree
import DocumentLint.Toml.Document
import DocumentLint.Host.Environment
import DocumentLint.Host.Files
import DocumentLint.Host.Toolbox
import DocumentLint.Config.Source
import DocumentLint.Json
import DocumentLint.CommandLine.Listing
import DocumentLint.CommandLine.Arguments
import DocumentLint.CommandLine.Run
import DocumentLint.CommandLine.Course
import DocumentLint.Main
import DocumentLint.Proofs.Session.Staleness
import DocumentLint.Proofs.Session.Verdicts
import DocumentLint.Proofs.Snapshot.Order
import DocumentLint.Proofs.Session.Confluence
import DocumentLint.Proofs.Session.Accounting
import DocumentLint.Proofs.Session.Isolation
import DocumentLint.Proofs.Session.Alike
import DocumentLint.Proofs.Session.Respelling
import DocumentLint.Proofs.Diagnostic.Location
import DocumentLint.Proofs.Diagnostic.Grammar
import DocumentLint.Proofs.Diagnostic.LineBreaks
import DocumentLint.Proofs.Diagnostic.Rendering
import DocumentLint.Proofs.Session.Listing
import DocumentLint.Proofs.Session.Positions
import DocumentLint.Proofs.Session.Notices
import DocumentLint.Proofs.Session.Launches
import DocumentLint.Proofs.Session.Unlocated
import DocumentLint.Proofs.Session.Findings
import DocumentLint.Proofs.Path.SortedOnce
import DocumentLint.Proofs.Path.Directory
import DocumentLint.Proofs.Linter.Target
import DocumentLint.Proofs.Snapshot.Faithful
import DocumentLint.Proofs.Config.Expansion
import DocumentLint.Proofs.Config.Loading
import DocumentLint.Proofs.CommandLine.Waiting
import DocumentLint.Proofs.CommandLine.Outcome
import DocumentLint.Proofs.CommandLine.ExitCode
import DocumentLint.Proofs.CommandLine.Report

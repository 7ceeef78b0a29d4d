import DocumentMigration.Main
import DocumentMigration.Store.Limited
import DocumentMigration.Store.Memory
import DocumentMigration.Proofs.Migration.Contract
import DocumentMigration.Proofs.Migration.Agreement
import DocumentMigration.Proofs.Migration.Failure
import DocumentMigration.Proofs.Migration.Rerun
import DocumentMigration.Proofs.Migration.Rows
import DocumentMigration.Proofs.Store.Listings
import DocumentMigration.Proofs.Store.Table
import DocumentMigration.Proofs.Migration.Preview
import DocumentMigration.Proofs.Migration.Approval
import DocumentMigration.Proofs.Store.Commit
import DocumentMigration.Proofs.Decimal.Rounding
import DocumentMigration.Proofs.Decimal.Shortest
import DocumentMigration.Proofs.Json.Literal
import DocumentMigration.Proofs.Json.Number
import DocumentMigration.Proofs.Json.Token
import DocumentMigration.Proofs.Json.Parser
import DocumentMigration.Proofs.Json.Pretty
import DocumentMigration.Proofs.Json.Printer
import DocumentMigration.Proofs.Store.DocumentText
import DocumentMigration.Proofs.Store.Interchange
import DocumentMigration.Proofs.Store.Chunks
import DocumentMigration.Proofs.Store.Identifier
import DocumentMigration.Proofs.Migration.Recorded
import DocumentMigration.Proofs.Migration.BatchSize
import DocumentMigration.Proofs.Grouping
import DocumentMigration.Proofs.Json.Object
import DocumentMigration.Proofs.Json.Reordered
import DocumentMigration.Proofs.Schema.Merge
import DocumentMigration.Proofs.Change.Summary
import DocumentMigration.Proofs.Schema.Shape
import DocumentMigration.Proofs.Schema.Infer
import DocumentMigration.Proofs.Json.Pointer
import DocumentMigration.Proofs.Change.Canonical
import DocumentMigration.Proofs.Template.Canonical
import DocumentMigration.Proofs.Migration.Creation
import DocumentMigration.Proofs.Store.Readback
import DocumentMigration.Proofs.Migration.Readback
import DocumentMigration.Proofs.Schema.Alike
import DocumentMigration.Proofs.Schema.References
import DocumentMigration.Proofs.Schema.Following
import DocumentMigration.Proofs.Schema.Collection
import DocumentMigration.Proofs.Schema.Admits
import DocumentMigration.Proofs.Schema.Definitions
import DocumentMigration.Proofs.Script.Shape
import DocumentMigration.Proofs.Script.Decode
import DocumentMigration.Proofs.Script.Rules
import DocumentMigration.Proofs.Files.Tree
import DocumentMigration.Proofs.Schema.Files
import DocumentMigration.Proofs.Json.Depth
import DocumentMigration.Proofs.Schema.Inferred
import DocumentMigration.Proofs.Command.Schemas
import DocumentMigration.Proofs.Change.Frame
import DocumentMigration.Proofs.Record.Reading
import DocumentMigration.Proofs.Record.RoundTrip
import DocumentMigration.Proofs.Record.Text
import DocumentMigration.Proofs.Migration.Rereading
import DocumentMigration.Proofs.Toml.Canonical
import DocumentMigration.Proofs.Config.Overlay
import DocumentMigration.Proofs.Config.Reading
import DocumentMigration.Proofs.Config.Variable
import DocumentMigration.Proofs.Config.Load
import DocumentMigration.Proofs.Change.Commute
import DocumentMigration.Proofs.Migration.Rearranged
import DocumentMigration.Proofs.Change.Blocked
import DocumentMigration.Proofs.Change.Summarized
import DocumentMigration.Proofs.Schema.Exact
import DocumentMigration.Proofs.Schema.Permuted
import DocumentMigration.Proofs.Change.Absent
import DocumentMigration.Proofs.Change.Growth
import DocumentMigration.Proofs.Change.Moment
import DocumentMigration.Proofs.Migration.Counts
import DocumentMigration.Proofs.Command.Written
import DocumentMigration.Proofs.Output.Lines
import DocumentMigration.Proofs.Schema.BrokenRules

import Circulation.Account
import Circulation.Code
import Circulation.CommandLine.Demo
import Circulation.CommandLine.Options
import Circulation.Decimal.Binary
import Circulation.Decimal.Layout
import Circulation.Decimal.Shortest
import Circulation.Entries
import Circulation.Fault
import Circulation.File
import Circulation.Journal
import Circulation.Json.Document
import Circulation.Json.Failure
import Circulation.Json.Scalar
import Circulation.Lending
import Circulation.Main
import Circulation.Number
import Circulation.Operation
import Circulation.Outcome
import Circulation.Registry
import Circulation.Report
import Circulation.Rule
import Circulation.Rulebook
import Circulation.Rulebook.Load
import Circulation.Scenario
import Circulation.Session
import Circulation.Shelf
import Circulation.Snapshot
import Circulation.Step
import Circulation.Tally
import Circulation.Text.Numeral
import Circulation.Text.Printable
import Circulation.Text.Quoted
import Circulation.Text.Utf8
import Circulation.Value
import Circulation.Value.Reading
import Circulation.Value.Written
import Circulation.Proofs.Snapshot
import Circulation.Proofs.Computation
import Circulation.Proofs.Decisions
import Circulation.Proofs.Runs
import Circulation.Proofs.Conservation
import Circulation.Proofs.Isolation
import Circulation.Proofs.Rebuilding
import Circulation.Proofs.WellFormed
import Circulation.Proofs.FineLedger
import Circulation.Proofs.Coverage
import Circulation.Proofs.LendingLimits
import Circulation.Proofs.Stopping
import Circulation.Proofs.Verdicts
import Circulation.Proofs.Ordering
import Circulation.Proofs.Composition
import Circulation.Proofs.Reporting
import Circulation.Proofs.Audit
import Circulation.Proofs.RulebookFormat
import Circulation.Proofs.DecisionTables
import Circulation.Proofs.Numerals
import Circulation.Proofs.SnapshotFormat
import Circulation.Proofs.SnapshotRoundTrip
import Circulation.Proofs.CanonicalForm
import Circulation.Proofs.Restoration
import Circulation.Proofs.Wording
import Circulation.Proofs.ReportReading
import Circulation.Proofs.ReportLines
import Circulation.Proofs.Availability
import Circulation.Proofs.Loading
import Circulation.Proofs.Documents
import Circulation.Proofs.DemoExit
import Circulation.Proofs.RegistryHistory

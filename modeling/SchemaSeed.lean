import SchemaSeed.Text.Blank
import SchemaSeed.Text.Case
import SchemaSeed.Text.Category
import SchemaSeed.Text.Script
import SchemaSeed.Number.Printed
import SchemaSeed.Number.Decimal
import SchemaSeed.Json.Syntax
import SchemaSeed.Json.Printed
import SchemaSeed.Json.Reading
import SchemaSeed.Calendar.Instant
import SchemaSeed.Sql.Value
import SchemaSeed.Failure
import SchemaSeed.Migration.Reading
import SchemaSeed.Migration.Printed
import SchemaSeed.Migration.Compile
import SchemaSeed.Files.Tree
import SchemaSeed.Sql.Session
import SchemaSeed.Migration.Run
import SchemaSeed.Server.Memory
import SchemaSeed.Server.Remote
import SchemaSeed.Sql.Registry
import SchemaSeed.Url.Basic
import SchemaSeed.Settings.Logging
import SchemaSeed.Command.Context
import SchemaSeed.Server.Trouble
import SchemaSeed.Factory.Document
import SchemaSeed.Factory.Generator
import SchemaSeed.Seed.Document
import SchemaSeed.Pattern.Replacement
import SchemaSeed.Factory.Manipulation
import SchemaSeed.Seed.Run
import SchemaSeed.Settings.VariableFile
import SchemaSeed.Text.Alphanumeric
import SchemaSeed.Command.Arguments
import SchemaSeed.Command.Report
import SchemaSeed.Command.Program
import SchemaSeed.Main
import SchemaSeed.Settings.Directive
import SchemaSeed.Text.Version
import SchemaSeed.Text.Normalization
import SchemaSeed.Url.Domain
import SchemaSeed.Proofs.Migration.Pending
import SchemaSeed.Proofs.Migration.Scripts
import SchemaSeed.Proofs.Server.Transactional
import SchemaSeed.Proofs.Migration.Atomicity
import SchemaSeed.Proofs.Server.SimulatedLedger
import SchemaSeed.Proofs.Migration.SimulatedRun
import SchemaSeed.Proofs.Migration.Listing
import SchemaSeed.Proofs.Migration.Outcome
import SchemaSeed.Proofs.Files.Contents
import SchemaSeed.Proofs.Files.Resolution
import SchemaSeed.Proofs.Migration.Defect
import SchemaSeed.Proofs.Migration.Consultation
import SchemaSeed.Proofs.Server.Journal
import SchemaSeed.Proofs.Migration.Alternation
import SchemaSeed.Proofs.Migration.JournaledRun
import SchemaSeed.Proofs.Migration.ScheduledRun
import SchemaSeed.Proofs.Migration.History
import SchemaSeed.Proofs.Sql.Quoting
import SchemaSeed.Proofs.Sql.Command
import SchemaSeed.Proofs.Seed.Writing
import SchemaSeed.Proofs.Server.Table
import SchemaSeed.Proofs.Seed.Upserting
import SchemaSeed.Proofs.Number.Printed
import SchemaSeed.Proofs.Sql.Outline
import SchemaSeed.Proofs.Migration.Quoted
import SchemaSeed.Proofs.Migration.QuotedStatement
import SchemaSeed.Proofs.Migration.Standing
import SchemaSeed.Proofs.Sql.Exchange
import SchemaSeed.Proofs.Seed.Exchanges
import SchemaSeed.Proofs.Seed.Calls
import SchemaSeed.Proofs.Seed.Reseeding
import SchemaSeed.Proofs.Seed.Seeding
import SchemaSeed.Proofs.Seed.Rejection
import SchemaSeed.Proofs.Migration.Transaction
import SchemaSeed.Proofs.Migration.Bracketing
import SchemaSeed.Proofs.Migration.Coherence
import SchemaSeed.Proofs.Migration.Spelling
import SchemaSeed.Proofs.Json.Normal
import SchemaSeed.Proofs.Json.Record
import SchemaSeed.Proofs.Migration.Survival
import SchemaSeed.Proofs.Survival
import SchemaSeed.Proofs.Migration.Validity
import SchemaSeed.Proofs.Migration.Composition
import SchemaSeed.Proofs.Migration.BlankName
import SchemaSeed.Proofs.Json.Range
import SchemaSeed.Proofs.Seed.Literal
import SchemaSeed.Proofs.Command.Interruption
import SchemaSeed.Proofs.Pattern.Expansion
import SchemaSeed.Proofs.Seed.ColumnOrder
import SchemaSeed.Proofs.Seed.FirstRow
import SchemaSeed.Proofs.Seed.Repetition
import SchemaSeed.Proofs.Seed.Independence
import SchemaSeed.Proofs.Number.Digits
import SchemaSeed.Proofs.Server.Datum
import SchemaSeed.Proofs.Seed.Sampling
import SchemaSeed.Proofs.Url.Encoding
import SchemaSeed.Proofs.Url.Path
import SchemaSeed.Proofs.Url.Host
import SchemaSeed.Proofs.Url.Written
import SchemaSeed.Proofs.Settings.Assembly
import SchemaSeed.Proofs.Settings.Validity
import SchemaSeed.Proofs.Factory.Domain
import SchemaSeed.Proofs.Sql.QuotationEnd
import SchemaSeed.Proofs.Listing

import BackupConsole.Main
import BackupConsole.Wire.Named
import BackupConsole.Proofs.Stream.Drain
import BackupConsole.Proofs.Command.Dispatch
import BackupConsole.Proofs.Channel
import BackupConsole.Proofs.Client
import BackupConsole.Proofs.Operation.Stages
import BackupConsole.Proofs.Certificates
import BackupConsole.Proofs.Operation.Report
import BackupConsole.Proofs.Operation.Reply
import BackupConsole.Proofs.Settings.Layer
import BackupConsole.Proofs.Settings.Sources
import BackupConsole.Proofs.Settings.Precedence
import BackupConsole.Proofs.Keys
import BackupConsole.Proofs.Metadata
import BackupConsole.Proofs.Connection.Course
import BackupConsole.Proofs.Listing.Stages
import BackupConsole.Proofs.Stream.Trace
import BackupConsole.Proofs.Connection.Errand
import BackupConsole.Proofs.Connection.Authorization
import BackupConsole.Proofs.Connection.Discipline
import BackupConsole.Proofs.Settings.Accepted
import BackupConsole.Proofs.Connection.Security
import BackupConsole.Proofs.Listing.Shown
import BackupConsole.Proofs.Listing.Outcome
import BackupConsole.Proofs.Listing.Report
import BackupConsole.Proofs.Interrupt.Signalled
import BackupConsole.Proofs.Interrupt.Stopped
import BackupConsole.Proofs.CommandLine.Line
import BackupConsole.Proofs.CommandLine.Options
import BackupConsole.Proofs.CommandLine.Override
import BackupConsole.Proofs.Wire.Fields
import BackupConsole.Proofs.Wire.RoundTrip
import BackupConsole.Proofs.Operation.Sent
import BackupConsole.Proofs.Completion
import BackupConsole.Proofs.Settings.Refusal
import BackupConsole.Proofs.Journal
import BackupConsole.Proofs.CommandLine.Unfinished
import BackupConsole.Proofs.Completion.Stages
import BackupConsole.Proofs.Completion.Tolerance
import BackupConsole.Proofs.Completion.Coordinator
import BackupConsole.Proofs.Layout.Times
import BackupConsole.Proofs.Listing.Timestamps
import BackupConsole.Proofs.Yaml.Scanning
import BackupConsole.Proofs.Yaml.Tokens
import BackupConsole.Proofs.Yaml.Construction
import BackupConsole.Proofs.Connection.Secrecy
import BackupConsole.Proofs.Stream.Release
import BackupConsole.Proofs.Wire.Rewriting
import BackupConsole.Proofs.Wire.Extent
import BackupConsole.Proofs.Wire.Distinct
import BackupConsole.Proofs.Stream.Arrangement
import BackupConsole.Proofs.Listing.Table
import BackupConsole.Proofs.Listing.Agents
import BackupConsole.Proofs.Client.Translation
import BackupConsole.Proofs.Number.NotANumber
import BackupConsole.Proofs.Completion.Timeout
import BackupConsole.Proofs.Yaml.Distinct
import BackupConsole.Proofs.Settings.Strictness
import BackupConsole.Proofs.Settings.Agreement
import BackupConsole.Proofs.Layout.Sink
import BackupConsole.Proofs.Layout.Sheet
import BackupConsole.Proofs.Calendar.Order
import BackupConsole.Proofs.Layout.Instants
import BackupConsole.Proofs.Layout.Columns
import BackupConsole.Proofs.Wire.Spelling
import BackupConsole.Proofs.Wire.Strangers
import BackupConsole.Proofs.Client.Richer
import BackupConsole.Proofs.Call.Composition
import BackupConsole.Proofs.Record

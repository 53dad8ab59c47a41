import MigrationStatus.Calendar
import MigrationStatus.Checksum
import MigrationStatus.Checksum.Md5
import MigrationStatus.Command
import MigrationStatus.Command.Arguments
import MigrationStatus.Command.Misuse
import MigrationStatus.Command.Parameter
import MigrationStatus.Command.Run
import MigrationStatus.Command.Session
import MigrationStatus.Connection.Address
import MigrationStatus.Connection.Error
import MigrationStatus.Connection.Host
import MigrationStatus.Connection.Mask
import MigrationStatus.Connection.Network
import MigrationStatus.Connection.Retry
import MigrationStatus.Connection.Route
import MigrationStatus.Environment
import MigrationStatus.Environment.File
import MigrationStatus.Event
import MigrationStatus.Failure
import MigrationStatus.Files
import MigrationStatus.Files.Path
import MigrationStatus.Files.Tree
import MigrationStatus.Ledger.Column
import MigrationStatus.Ledger.Error
import MigrationStatus.Ledger.Operation
import MigrationStatus.Ledger.Row
import MigrationStatus.Ledger.Server
import MigrationStatus.Ledger.Statement
import MigrationStatus.Ledger.Table
import MigrationStatus.Log
import MigrationStatus.Main
import MigrationStatus.Migration.Kind
import MigrationStatus.Migration.Overview
import MigrationStatus.Migration.Reconcile
import MigrationStatus.Migration.Record
import MigrationStatus.Migration.State
import MigrationStatus.Migration.Timeline
import MigrationStatus.Program
import MigrationStatus.Report
import MigrationStatus.Report.Json
import MigrationStatus.Report.Style
import MigrationStatus.Report.Summary
import MigrationStatus.Report.Table
import MigrationStatus.Script.Folder
import MigrationStatus.Script.Name
import MigrationStatus.Settings
import MigrationStatus.Settings.File
import MigrationStatus.Settings.Layer
import MigrationStatus.Settings.Options
import MigrationStatus.Status
import MigrationStatus.Text.Blank
import MigrationStatus.Text.Cut
import MigrationStatus.Text.Digits
import MigrationStatus.Text.HostForm
import MigrationStatus.Text.Letters
import MigrationStatus.Text.Percent
import MigrationStatus.Text.Punycode
import MigrationStatus.Text.Quoted
import MigrationStatus.Text.Terminal
import MigrationStatus.Text.Utf8
import MigrationStatus.Version
import MigrationStatus.Version.Text
import MigrationStatus.Yaml.Cursor
import MigrationStatus.Yaml.Node
import MigrationStatus.Yaml.Scalar
import MigrationStatus.Yaml.Token
import MigrationStatus.Proofs.TimelineLookup
import MigrationStatus.Proofs.Entry
import MigrationStatus.Proofs.Standing
import MigrationStatus.Proofs.Rollout
import MigrationStatus.Proofs.LedgerRows
import MigrationStatus.Proofs.MarkerRow
import MigrationStatus.Proofs.SharedDatabase
import MigrationStatus.Proofs.SingleMarker
import MigrationStatus.Proofs.Views
import MigrationStatus.Proofs.Loading
import MigrationStatus.Proofs.Starting
import MigrationStatus.Proofs.Requests
import MigrationStatus.Proofs.FirstView
import MigrationStatus.Proofs.StoredVersion
import MigrationStatus.Proofs.RowConversion
import MigrationStatus.Proofs.MaskedPassword
import MigrationStatus.Proofs.Rearrangement
import MigrationStatus.Proofs.NewRow
import MigrationStatus.Proofs.NewFile
import MigrationStatus.Proofs.AnyLists
import MigrationStatus.Proofs.Executions
import MigrationStatus.Proofs.VersionGrammar
import MigrationStatus.Proofs.NumericOrder
import MigrationStatus.Proofs.ScriptName
import MigrationStatus.Proofs.ScriptFolder
import MigrationStatus.Proofs.Discovery
import MigrationStatus.Proofs.Layering
import MigrationStatus.Proofs.QuotedName
import MigrationStatus.Proofs.Retrying
import MigrationStatus.Proofs.Summary
import MigrationStatus.Proofs.TimeText
import MigrationStatus.Proofs.Columns

import Gradebook.Clock
import Gradebook.Clock.Wall
import Gradebook.Collection
import Gradebook.Command.Basic
import Gradebook.Command.Typed
import Gradebook.Fault.Basic
import Gradebook.Fault.Code
import Gradebook.Fault.Counted
import Gradebook.Files.Problem
import Gradebook.Files.Tree
import Gradebook.Json.Layout
import Gradebook.Json.Number
import Gradebook.Json.Quoted
import Gradebook.Json.Reader
import Gradebook.Json.Token
import Gradebook.Json.Value
import Gradebook.Ledger.Basic
import Gradebook.Ledger.Dispatch
import Gradebook.Ledger.Roster
import Gradebook.Ledger.Views
import Gradebook.Main
import Gradebook.Preferences
import Gradebook.Proofs.Clock
import Gradebook.Proofs.Clock.Numbers
import Gradebook.Proofs.Clock.Readings
import Gradebook.Proofs.Command.Grammar
import Gradebook.Proofs.Command.Image
import Gradebook.Proofs.Fault
import Gradebook.Proofs.Files.Agreement
import Gradebook.Proofs.Files.Directories
import Gradebook.Proofs.Files.Names
import Gradebook.Proofs.Json.Quoted
import Gradebook.Proofs.Json.RoundTrip
import Gradebook.Proofs.Json.Spaced
import Gradebook.Proofs.Json.Token
import Gradebook.Proofs.Ledger.Audit
import Gradebook.Proofs.Ledger.Dates
import Gradebook.Proofs.Ledger.Execution
import Gradebook.Proofs.Ledger.Homework
import Gradebook.Proofs.Ledger.Identity
import Gradebook.Proofs.Ledger.Mirror
import Gradebook.Proofs.Ledger.Portrait
import Gradebook.Proofs.Ledger.Ranking
import Gradebook.Proofs.Ledger.Recent
import Gradebook.Proofs.Ledger.Search
import Gradebook.Proofs.Ledger.Stamps
import Gradebook.Proofs.Ledger.Unmarked
import Gradebook.Proofs.Preferences
import Gradebook.Proofs.Preferences.Changes
import Gradebook.Proofs.Preferences.RoundTrip
import Gradebook.Proofs.Record.Layouts
import Gradebook.Proofs.Record.Rearranged
import Gradebook.Proofs.Record.RoundTrip
import Gradebook.Proofs.Record.Spellings
import Gradebook.Proofs.Settings.File
import Gradebook.Proofs.Store.AllOrNothing
import Gradebook.Proofs.Store.Counting
import Gradebook.Proofs.Store.Faithful
import Gradebook.Proofs.Store.Folder
import Gradebook.Proofs.Tally
import Gradebook.Proofs.Terminal.Arguments
import Gradebook.Proofs.Terminal.Asking
import Gradebook.Proofs.Terminal.Damage
import Gradebook.Proofs.Terminal.Document
import Gradebook.Proofs.Terminal.Failure
import Gradebook.Proofs.Terminal.Frame
import Gradebook.Proofs.Terminal.Report
import Gradebook.Proofs.Terminal.Selection
import Gradebook.Proofs.Terminal.Sequel
import Gradebook.Proofs.Terminal.Session
import Gradebook.Proofs.Terminal.Sittings
import Gradebook.Proofs.Text.Split
import Gradebook.Proofs.Text.Words
import Gradebook.Proofs.Time.Calendar
import Gradebook.Proofs.Time.DayStart
import Gradebook.Proofs.Time.Order
import Gradebook.Proofs.Time.Rfc3339
import Gradebook.Proofs.Time.Zone
import Gradebook.Proofs.Toml.Quoted
import Gradebook.Proofs.Toml.RoundTrip
import Gradebook.Proofs.Workbook.Alone
import Gradebook.Proofs.Workbook.Audit
import Gradebook.Proofs.Workbook.Balance
import Gradebook.Proofs.Workbook.Change
import Gradebook.Proofs.Workbook.Completing
import Gradebook.Proofs.Workbook.Counting
import Gradebook.Proofs.Workbook.Dealing
import Gradebook.Proofs.Workbook.Effect
import Gradebook.Proofs.Workbook.GlobalLog
import Gradebook.Proofs.Workbook.History
import Gradebook.Proofs.Workbook.Identity
import Gradebook.Proofs.Workbook.LastSave
import Gradebook.Proofs.Workbook.Rejection
import Gradebook.Proofs.Workbook.Reopening
import Gradebook.Proofs.Workbook.Saving
import Gradebook.Proofs.Workbook.TimeOrder
import Gradebook.Record.Basic
import Gradebook.Record.Codec
import Gradebook.Record.Count
import Gradebook.Record.Status
import Gradebook.Settings.Basic
import Gradebook.Settings.File
import Gradebook.Settings.Filter
import Gradebook.Settings.Pattern
import Gradebook.Settings.Source
import Gradebook.Store.Folder
import Gradebook.Store.Memory
import Gradebook.Tally
import Gradebook.Terminal.Arguments
import Gradebook.Terminal.Chosen
import Gradebook.Terminal.Console
import Gradebook.Terminal.Flag
import Gradebook.Terminal.Print
import Gradebook.Terminal.Program
import Gradebook.Terminal.Records
import Gradebook.Terminal.Request
import Gradebook.Terminal.Session
import Gradebook.Terminal.Students
import Gradebook.Text.Blank
import Gradebook.Text.Boxed
import Gradebook.Text.Case
import Gradebook.Text.Case.Table
import Gradebook.Text.Columns
import Gradebook.Text.Columns.Table
import Gradebook.Text.Decimal
import Gradebook.Text.Double
import Gradebook.Text.Letter
import Gradebook.Text.Search
import Gradebook.Text.Utf8
import Gradebook.Time.Calendar
import Gradebook.Time.Instant
import Gradebook.Time.Rfc3339
import Gradebook.Time.Zone
import Gradebook.Time.ZoneText
import Gradebook.Toml.Layout
import Gradebook.Toml.Quoted
import Gradebook.Toml.Reader
import Gradebook.Toml.Scalar
import Gradebook.Toml.Table
import Gradebook.Workbook
import Gradebook.Yaml.Layout
import Gradebook.Yaml.Scalar

import Gatewatch.Action.Basic
import Gatewatch.Action.Command
import Gatewatch.Action.Roster
import Gatewatch.Action.Tags
import Gatewatch.Ban.Basic
import Gatewatch.Ban.Roll
import Gatewatch.Cli.Grammar
import Gatewatch.Cli.Reading
import Gatewatch.Cli.Usage
import Gatewatch.Client
import Gatewatch.Config.Basic
import Gatewatch.Config.Load
import Gatewatch.Config.Source
import Gatewatch.Daemon.Basic
import Gatewatch.Daemon.Listener
import Gatewatch.Daemon.PidFile
import Gatewatch.Daemon.Shutdown
import Gatewatch.Daemon.Socket
import Gatewatch.Date.Builtin
import Gatewatch.Date.Civil
import Gatewatch.Date.Detector
import Gatewatch.Date.Fields
import Gatewatch.Date.Month
import Gatewatch.Date.Template
import Gatewatch.Disk.Fault
import Gatewatch.Disk.Name
import Gatewatch.Disk.Tree
import Gatewatch.Error
import Gatewatch.Filter.Basic
import Gatewatch.Filter.Lines
import Gatewatch.Filter.LogFile
import Gatewatch.Filter.Patterns
import Gatewatch.Filter.Watcher
import Gatewatch.Host
import Gatewatch.Jail.Basic
import Gatewatch.Jail.Setting
import Gatewatch.Json.Access
import Gatewatch.Json.Reader
import Gatewatch.Json.Record
import Gatewatch.Json.Value
import Gatewatch.Json.Writer
import Gatewatch.Log.Control
import Gatewatch.Log.Record
import Gatewatch.Machine
import Gatewatch.Main
import Gatewatch.Net.Address
import Gatewatch.Net.Block
import Gatewatch.Net.HostName
import Gatewatch.Net.IgnoreList
import Gatewatch.Net.Literal
import Gatewatch.Net.Search
import Gatewatch.Note
import Gatewatch.Offence.Basic
import Gatewatch.Offence.Table
import Gatewatch.Pattern.Basic
import Gatewatch.Pattern.Class
import Gatewatch.Pattern.Node
import Gatewatch.Pattern.Written
import Gatewatch.Proofs.Ban.Batch
import Gatewatch.Proofs.Ban.Roll
import Gatewatch.Proofs.Work
import Gatewatch.Report
import Gatewatch.Server.Basic
import Gatewatch.Server.Request
import Gatewatch.Shell.Arithmetic
import Gatewatch.Shell.Builtin
import Gatewatch.Shell.Command
import Gatewatch.Shell.Format
import Gatewatch.Shell.Octets
import Gatewatch.Shell.Posix
import Gatewatch.Shell.Reader
import Gatewatch.Shell.Script
import Gatewatch.Shell.Session
import Gatewatch.Text.Charset
import Gatewatch.Text.Cut
import Gatewatch.Text.Decimal
import Gatewatch.Text.Double
import Gatewatch.Text.Numeral
import Gatewatch.Text.Quoted
import Gatewatch.Text.Replace
import Gatewatch.Text.Similar
import Gatewatch.Text.Trim
import Gatewatch.Text.Utf8
import Gatewatch.Unicode.Case
import Gatewatch.Unicode.Classes
import Gatewatch.Unicode.Property
import Gatewatch.Unicode.Ranges
import Gatewatch.Wire.Frame
import Gatewatch.Wire.Message
import Gatewatch.Wire.Receiver
import Gatewatch.Yaml.Node
import Gatewatch.Yaml.Token
import Gatewatch.Proofs.Ban.Pairing
import Gatewatch.Proofs.Json.Escape
import Gatewatch.Proofs.Json.Numeral
import Gatewatch.Proofs.Json.RoundTrip
import Gatewatch.Proofs.Wire.Frame
import Gatewatch.Proofs.Wire.Chunks
import Gatewatch.Proofs.Net.Address
import Gatewatch.Proofs.Server.Refusal
import Gatewatch.Proofs.Server.Reload
import Gatewatch.Proofs.Filter.Passing
import Gatewatch.Proofs.Filter.Ignored
import Gatewatch.Proofs.Keyed
import Gatewatch.Proofs.Offence.Window
import Gatewatch.Proofs.Disk.Tree
import Gatewatch.Proofs.Filter.LineEnds
import Gatewatch.Proofs.Filter.Reading
import Gatewatch.Proofs.Jail.Wakes
import Gatewatch.Proofs.Text.Replace
import Gatewatch.Proofs.Text.Spelling
import Gatewatch.Proofs.Action.Tags
import Gatewatch.Proofs.Action.Breaks
import Gatewatch.Proofs.Jail.Frame
import Gatewatch.Proofs.Jail.Changes
import Gatewatch.Proofs.Config.Requests
import Gatewatch.Proofs.Server.Replies
import Gatewatch.Proofs.Config.Declared
import Gatewatch.Proofs.Server.Building
import Gatewatch.Proofs.Ban.Joining
import Gatewatch.Proofs.Net.Literal
import Gatewatch.Action.Errand
import Gatewatch.Proofs.Action.Commands
import Gatewatch.Proofs.Ban.Errand
import Gatewatch.Proofs.Ban.Turns
import Gatewatch.Proofs.Ban.Race
import Gatewatch.Proofs.Jail.Pace
import Gatewatch.Proofs.Offence.Draining
import Gatewatch.Proofs.Offence.Order
import Gatewatch.Proofs.Offence.Store
import Gatewatch.Proofs.Offence.Forgetting
import Gatewatch.Proofs.Jail.Answers
import Gatewatch.Proofs.Server.Settings
import Gatewatch.Proofs.Ban.Worker
import Gatewatch.Proofs.Ban.Lifetime
import Gatewatch.Proofs.Action.Expansion
import Gatewatch.Proofs.Action.Seams
import Gatewatch.Proofs.Action.Splicing
import Gatewatch.Proofs.Offence.Sparing
import Gatewatch.Proofs.Ban.Rollback
import Gatewatch.Proofs.Ban.Retrial
import Gatewatch.Proofs.Date.Recurrence
import Gatewatch.Proofs.Date.Year
import Gatewatch.Proofs.Net.Search
import Gatewatch.Proofs.Filter.Captured
import Gatewatch.Proofs.Pattern.Masked
import Gatewatch.Proofs.Date.Trial
import Gatewatch.Proofs.Date.Register
import Gatewatch.Proofs.Date.Precedence
import Gatewatch.Proofs.Date.Stamp
import Gatewatch.Proofs.Date.Printed
import Gatewatch.Proofs.Date.Layout
import Gatewatch.Proofs.Date.Described
import Gatewatch.Proofs.Net.Ignoring
import Gatewatch.Proofs.Ban.Forcing
import Gatewatch.Proofs.Filter.Tailing
import Gatewatch.Proofs.Filter.Buffer
import Gatewatch.Proofs.Filter.Missing
import Gatewatch.Proofs.Action.Quoting
import Gatewatch.Proofs.Filter.Touched

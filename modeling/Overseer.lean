import Overseer.CommandLine.Arguments
import Overseer.CommandLine.Counts
import Overseer.CommandLine.Invocation
import Overseer.CommandLine.Paint
import Overseer.CommandLine.Run
import Overseer.CommandLine.Usage
import Overseer.Config.Format
import Overseer.Config.Load
import Overseer.Config.Overrides
import Overseer.Config.Settings
import Overseer.Config.Steps
import Overseer.Counter.Artifact
import Overseer.Counter.Store
import Overseer.Decimal.Double
import Overseer.Decimal.Shortest
import Overseer.Diagnostic
import Overseer.Diagnostic.Filter
import Overseer.Execution.Basic
import Overseer.Execution.Condition
import Overseer.Execution.Launch
import Overseer.Execution.Loading
import Overseer.Execution.Pattern
import Overseer.Execution.Printing
import Overseer.Execution.Shell.Arithmetic
import Overseer.Execution.Shell.Field
import Overseer.Execution.Shell.Own
import Overseer.Execution.Shell.Reader
import Overseer.Execution.Shell.Run
import Overseer.Execution.Shell.Script
import Overseer.Execution.Shell.State
import Overseer.Execution.Shell.Token
import Overseer.Execution.Tools
import Overseer.Fault
import Overseer.Files.Edit
import Overseer.Files.Path
import Overseer.Files.Tree
import Overseer.Host.Call
import Overseer.Host.Machine
import Overseer.Journal.Entry
import Overseer.Journal.Sink
import Overseer.Main
import Overseer.Notify.Address
import Overseer.Notify.Mail
import Overseer.Notify.Notifier
import Overseer.Notify.Server
import Overseer.Notify.Status
import Overseer.Notify.Webhook
import Overseer.Program
import Overseer.Proofs.CommandLine.Findings
import Overseer.Proofs.CommandLine.Roundtrip
import Overseer.Proofs.CommandLine.Start
import Overseer.Proofs.CommandLine.Status
import Overseer.Proofs.Config.Ceilings
import Overseer.Proofs.Config.Edits
import Overseer.Proofs.Config.Layers
import Overseer.Proofs.Config.Partial
import Overseer.Proofs.Config.StepNodes
import Overseer.Proofs.Counter.Agreement
import Overseer.Proofs.Counter.Allocation
import Overseer.Proofs.Counter.Alone
import Overseer.Proofs.Counter.Answers
import Overseer.Proofs.Counter.Careful
import Overseer.Proofs.Counter.Disturbance
import Overseer.Proofs.Counter.Failing
import Overseer.Proofs.Counter.Interference
import Overseer.Proofs.Counter.Listing
import Overseer.Proofs.Counter.Lone
import Overseer.Proofs.Counter.Looking
import Overseer.Proofs.Counter.Maximum
import Overseer.Proofs.Counter.Names
import Overseer.Proofs.Counter.Naming
import Overseer.Proofs.Counter.Neighbours
import Overseer.Proofs.Counter.Newest
import Overseer.Proofs.Counter.Numbering
import Overseer.Proofs.Counter.Padding
import Overseer.Proofs.Counter.Reading
import Overseer.Proofs.Counter.Register
import Overseer.Proofs.Counter.Replacing
import Overseer.Proofs.Counter.Request
import Overseer.Proofs.Counter.Sharing
import Overseer.Proofs.Counter.Shelf
import Overseer.Proofs.Counter.Sketch
import Overseer.Proofs.Counter.Stock
import Overseer.Proofs.Counter.Territory
import Overseer.Proofs.Counter.Writing
import Overseer.Proofs.Files.Change
import Overseer.Proofs.Files.Entry
import Overseer.Proofs.Files.Following
import Overseer.Proofs.Files.Growing
import Overseer.Proofs.Files.Home
import Overseer.Proofs.Files.Locality
import Overseer.Proofs.Files.Making
import Overseer.Proofs.Files.Walk
import Overseer.Proofs.Journal.Appending
import Overseer.Proofs.Journal.Chronology
import Overseer.Proofs.Journal.Logging
import Overseer.Proofs.Journal.Transcript
import Overseer.Proofs.Program.Along
import Overseer.Proofs.Program.History
import Overseer.Proofs.Program.Parting
import Overseer.Proofs.Session.Closing
import Overseer.Proofs.Session.Counting
import Overseer.Proofs.Session.Course
import Overseer.Proofs.Session.Delivery
import Overseer.Proofs.Session.Escalating
import Overseer.Proofs.Session.Faults
import Overseer.Proofs.Session.Messages
import Overseer.Proofs.Session.Numbering
import Overseer.Proofs.Session.Origin
import Overseer.Proofs.Session.Recording
import Overseer.Proofs.Session.Retry
import Overseer.Proofs.Session.Sentences
import Overseer.Proofs.Session.Stopping
import Overseer.Proofs.Session.Stored
import Overseer.Proofs.Session.Succession
import Overseer.Proofs.Session.Timing
import Overseer.Proofs.Session.Transcript
import Overseer.Proofs.Session.Transitions
import Overseer.Proofs.Session.Turns
import Overseer.Proofs.Session.Watch
import Overseer.Proofs.Text.Encoding
import Overseer.Proofs.Text.Grammar
import Overseer.Proofs.Text.Numeral
import Overseer.Proofs.Time.Calendar
import Overseer.Proofs.Time.Order
import Overseer.Proofs.Workload.Deadline
import Overseer.Proofs.Workload.Deeds
import Overseer.Proofs.Yaml.Spelling
import Overseer.Refusal
import Overseer.Session.Assembly
import Overseer.Session.Basic
import Overseer.Session.Rehearsal
import Overseer.Session.Supervisor
import Overseer.Text.Blank
import Overseer.Text.Extending
import Overseer.Text.Numeral
import Overseer.Text.Percent
import Overseer.Text.Punycode
import Overseer.Text.Quoted
import Overseer.Text.Unprintable
import Overseer.Time.Date
import Overseer.Time.Stamp
import Overseer.Workload.Attempt
import Overseer.Workload.Step
import Overseer.Yaml.Buffer
import Overseer.Yaml.Character
import Overseer.Yaml.Decode
import Overseer.Yaml.Lexer
import Overseer.Yaml.Lexer.Block
import Overseer.Yaml.Lexer.Folding
import Overseer.Yaml.Lexer.Plain
import Overseer.Yaml.Lexer.Properties
import Overseer.Yaml.Lexer.Quotes
import Overseer.Yaml.Mismatch
import Overseer.Yaml.Node
import Overseer.Yaml.Parser
import Overseer.Yaml.Resolution
import Overseer.Yaml.Token

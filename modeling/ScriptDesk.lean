import ScriptDesk.App
import ScriptDesk.App.Update
import ScriptDesk.Buffer
import ScriptDesk.CommandLine
import ScriptDesk.CommandLine.Reading
import ScriptDesk.Config
import ScriptDesk.Config.Document
import ScriptDesk.Config.Loading
import ScriptDesk.Controller
import ScriptDesk.Controller.Sequential
import ScriptDesk.Diagnostic
import ScriptDesk.Diagnostic.Decomposition
import ScriptDesk.Executor
import ScriptDesk.ExitStatus
import ScriptDesk.Fault
import ScriptDesk.FileTree
import ScriptDesk.FileTree.Change
import ScriptDesk.Host
import ScriptDesk.Json.Numeral
import ScriptDesk.Json.Spelling
import ScriptDesk.Json.Token
import ScriptDesk.Json.Value
import ScriptDesk.Launch
import ScriptDesk.Main
import ScriptDesk.Message
import ScriptDesk.Outcome
import ScriptDesk.Position
import ScriptDesk.Position.Word
import ScriptDesk.Program
import ScriptDesk.Programs
import ScriptDesk.Proofs.App.Answers
import ScriptDesk.Proofs.App.Draft
import ScriptDesk.Proofs.App.Jumping
import ScriptDesk.Proofs.App.Reached
import ScriptDesk.Proofs.Buffer.Reached
import ScriptDesk.Proofs.CommandLine.Writing
import ScriptDesk.Proofs.Config.Document
import ScriptDesk.Proofs.Config.Precedence
import ScriptDesk.Proofs.Config.Writing
import ScriptDesk.Proofs.Controller.Coherence
import ScriptDesk.Proofs.Controller.Faithful
import ScriptDesk.Proofs.Controller.Preservation
import ScriptDesk.Proofs.Controller.Progress
import ScriptDesk.Proofs.Controller.Rank
import ScriptDesk.Proofs.Controller.Refinement
import ScriptDesk.Proofs.Controller.Settling
import ScriptDesk.Proofs.Controller.Simulation
import ScriptDesk.Proofs.Controller.StateChange
import ScriptDesk.Proofs.Controller.Tasks
import ScriptDesk.Proofs.Controller.Undertaking
import ScriptDesk.Proofs.Controller.Usage
import ScriptDesk.Proofs.Diagnostic.LastPlace
import ScriptDesk.Proofs.Diagnostic.Printing
import ScriptDesk.Proofs.Diagnostic.Recognition
import ScriptDesk.Proofs.Diagnostic.Search
import ScriptDesk.Proofs.Json.Grammar
import ScriptDesk.Proofs.Json.Reading
import ScriptDesk.Proofs.Launch.Stages
import ScriptDesk.Proofs.Position.Correspondence
import ScriptDesk.Proofs.Position.Exactness
import ScriptDesk.Proofs.Program.Verdicts
import ScriptDesk.Proofs.RunMachine.Consistency
import ScriptDesk.Proofs.RunMachine.Ending
import ScriptDesk.Proofs.RunMachine.Requests
import ScriptDesk.Proofs.Session.Dispatching
import ScriptDesk.Proofs.Session.Drivers
import ScriptDesk.Proofs.Session.Feeding
import ScriptDesk.Proofs.Session.LineReading
import ScriptDesk.Proofs.Session.Panes
import ScriptDesk.Proofs.Session.SingleRun
import ScriptDesk.Proofs.Session.Timing
import ScriptDesk.Proofs.Session.Turns
import ScriptDesk.Proofs.Session.Typing
import ScriptDesk.Proofs.Text.Boundary
import ScriptDesk.Proofs.Text.Decimal
import ScriptDesk.Proofs.Text.Encoding
import ScriptDesk.Proofs.Text.Lines
import ScriptDesk.Proofs.Text.Segments
import ScriptDesk.Proofs.Text.Trimming
import ScriptDesk.Proofs.View.HiddenPath
import ScriptDesk.Proofs.View.Listing
import ScriptDesk.Proofs.View.Transcript
import ScriptDesk.RunMachine
import ScriptDesk.RunState
import ScriptDesk.Session
import ScriptDesk.Session.Feed
import ScriptDesk.Session.Interactive
import ScriptDesk.Session.OneShot
import ScriptDesk.Shell.Argument
import ScriptDesk.Shell.Arithmetic
import ScriptDesk.Shell.Builtin
import ScriptDesk.Shell.Builtin.Condition
import ScriptDesk.Shell.Builtin.Directory
import ScriptDesk.Shell.Builtin.Flow
import ScriptDesk.Shell.Builtin.Input
import ScriptDesk.Shell.Builtin.Jobs
import ScriptDesk.Shell.Builtin.Limits
import ScriptDesk.Shell.Builtin.Names
import ScriptDesk.Shell.Builtin.Variables
import ScriptDesk.Shell.Child
import ScriptDesk.Shell.Command
import ScriptDesk.Shell.Evaluation
import ScriptDesk.Shell.Expansion
import ScriptDesk.Shell.Field
import ScriptDesk.Shell.Format
import ScriptDesk.Shell.Grammar
import ScriptDesk.Shell.Lookup
import ScriptDesk.Shell.Numeral
import ScriptDesk.Shell.Pattern
import ScriptDesk.Shell.Reader
import ScriptDesk.Shell.Real
import ScriptDesk.Shell.Redirecting
import ScriptDesk.Shell.Run
import ScriptDesk.Shell.Script
import ScriptDesk.Shell.Signal
import ScriptDesk.Shell.Start
import ScriptDesk.Shell.State
import ScriptDesk.Shell.Token
import ScriptDesk.Shell.WordReader
import ScriptDesk.System.Answer
import ScriptDesk.System.Execution
import ScriptDesk.System.Process
import ScriptDesk.System.Request
import ScriptDesk.System.Schedule
import ScriptDesk.System.Search
import ScriptDesk.Terminal
import ScriptDesk.Text.Basic
import ScriptDesk.Text.Blank
import ScriptDesk.Text.CodeRange
import ScriptDesk.Text.CombiningMark
import ScriptDesk.Text.DecimalDigit
import ScriptDesk.Text.Numeral
import ScriptDesk.Text.Quoted
import ScriptDesk.Text.Unprintable
import ScriptDesk.Text.Utf8
import ScriptDesk.Tool.Files
import ScriptDesk.Tool.Invocation
import ScriptDesk.Tool.Launching
import ScriptDesk.Tool.Lines
import ScriptDesk.Tool.Relay
import ScriptDesk.Tool.Words
import ScriptDesk.View
import ScriptDesk.View.Duration
import ScriptDesk.View.Listing
import ScriptDesk.View.ShortPath
import ScriptDesk.Proofs.View.Painting
import ScriptDesk.Proofs.Config.Overriding
import ScriptDesk.Proofs.Config.TimeLimit

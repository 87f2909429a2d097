import ScriptDesk.Config

/-!
# Command lines

What can be said on the command line: a file, three switches and three options with
values. The options for the interpreter and for the time limit override the configuration.
-/

namespace ScriptDesk

/-- What a command line says. -/
structure CommandLine where
  file : Option Text
  interactive : Bool
  gotoError : Bool
  config : Option Text
  interpreter : Option Text
  timeout : Option Nat
  noColour : Bool
deriving DecidableEq, Repr

/-- Why a command line is not followed. The last two are requests. -/
inductive UsageError where
  /-- There is no such option, or no place for one more file. -/
  | unknownArgument
  /-- A value is missing, or a path is empty. -/
  | invalidValue
  /-- A value is no number. -/
  | notANumber
  /-- An option is given twice. -/
  | argumentConflict
  /-- A value is attached to a switch. -/
  | tooManyValues
  | helpWanted
  | versionWanted
deriving DecidableEq, Repr

namespace UsageError

def exitCode : UsageError → Nat
  | .helpWanted => 0
  | .versionWanted => 0
  | _ => 2

end UsageError

namespace CommandLine

def empty : CommandLine :=
  ⟨none, false, false, none, none, none, false⟩

def overrideConfig (line : CommandLine) (config : Config) : Config :=
  { config with
    program := line.interpreter.getD config.program
    timeoutSeconds := line.timeout.or config.timeoutSeconds }

/-- An option without a value. -/
inductive Switch where
  | interactive
  | gotoError
  | noColour
  | help
  | version
deriving DecidableEq, Repr

/-- Something that has a value. -/
inductive Slot where
  | file
  | config
  | interpreter
  | timeout
deriving DecidableEq, Repr

/-- An option. -/
inductive Name where
  | switch (switch : Switch)
  | slot (slot : Slot)
deriving DecidableEq, Repr

def longName? (name : Text) : Option Name :=
  if name = "interactive".toList then some (.switch .interactive)
  else if name = "goto-error".toList then some (.switch .gotoError)
  else if name = "no-color".toList then some (.switch .noColour)
  else if name = "help".toList then some (.switch .help)
  else if name = "version".toList then some (.switch .version)
  else if name = "config".toList then some (.slot .config)
  else if name = "interpreter".toList then some (.slot .interpreter)
  else if name = "timeout".toList then some (.slot .timeout)
  else none

def letter? (letter : Char) : Option Name :=
  if letter = 'i' then some (.switch .interactive)
  else if letter = 'g' then some (.switch .gotoError)
  else if letter = 'h' then some (.switch .help)
  else if letter = 'V' then some (.switch .version)
  else if letter = 'c' then some (.slot .config)
  else none

/-- The name and the version of the program. -/
def versionText : Text := "scriptrunner 0.1.0\n".toList

def helpText : Text :=
  ("Run scripts and jump to their errors\n\n" ++
   "Usage: scriptrunner [OPTIONS] [FILE]\n\n" ++
   "Arguments:\n" ++
   "  [FILE]  Script to load into the buffer\n\n" ++
   "Options:\n" ++
   "  -i, --interactive        Start a line-oriented editing session instead of running once\n" ++
   "  -g, --goto-error         After a failed run, move the caret to the reported error\n" ++
   "  -c, --config <PATH>      Config file to use instead of the default location\n" ++
   "      --interpreter <BIN>  Interpreter binary (overrides config and environment)\n" ++
   "      --timeout <SECS>     Kill a run after this many seconds (0 disables)\n" ++
   "      --no-color           Disable colored output (also honoured: `NO_COLOR`)\n" ++
   "  -h, --help               Print help\n" ++
   "  -V, --version            Print version\n").toList

end CommandLine

end ScriptDesk

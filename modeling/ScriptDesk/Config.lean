import ScriptDesk.Fault
import ScriptDesk.Json.Spelling
import ScriptDesk.Text.Blank
import ScriptDesk.Text.Quoted

/-!
# Configuration

How scripts are run: the interpreter and its arguments, how the file is named that a
script is written to, and the time limit. Two environment variables override what is
configured; one that cannot be used is an error.
-/

namespace ScriptDesk

/-- How scripts are run. -/
structure Config where
  program : Text
  scriptArguments : List Text
  extension : Text
  filePrefix : Text
  timeoutSeconds : Option Nat
deriving DecidableEq, Repr

/-- How the reader of JSON texts words a fault in the file at a path. -/
abbrev FaultWording := Text → Json.Fault → Text

/-- Why a configuration cannot be used. -/
inductive ConfigError where
  /-- The file cannot be read. -/
  | unreadable (path : Text) (fault : Fault)
  /-- The file does not hold a configuration. -/
  | invalid (path : Text) (fault : Json.Fault)
  /-- The variable for the time limit holds no number. -/
  | invalidTimeout (value : Text)
  /-- There is no grammar for scripts with the extension. -/
  | unusableExtension (extension : Text)
deriving DecidableEq, Repr

namespace ConfigError

def timeoutVariable : Text := "SCRIPTRUNNER_TIMEOUT_SECS".toList

/-- What the words for an invalid file begin with. -/
def invalidHeading (path : Text) : Text :=
  "invalid config ".toList ++ path ++ ": ".toList

/-- The words for a grammar that would take too much room. -/
def grammarTooLarge : Text :=
  "Compiled regex exceeds size limit of 10485760 bytes.".toList

/-- The causes of the error, from the outermost inwards. -/
def chain (wording : FaultWording) : ConfigError → List Text
  | .unreadable path fault =>
    ["failed to read config ".toList ++ path ++ ": ".toList ++ fault.message, fault.message]
  | .invalid path fault =>
    [invalidHeading path ++ wording path fault, wording path fault]
  | .invalidTimeout value =>
    [timeoutVariable ++ " must be a whole number of seconds, got ".toList ++ Text.quoted value]
  | .unusableExtension extension =>
    ["unusable script extension ".toList ++ Text.quoted extension ++ ": ".toList ++
        grammarTooLarge,
      grammarTooLarge]

def message (wording : FaultWording) (error : ConfigError) : Text :=
  (error.chain wording).headD []

end ConfigError

namespace Config

/-- What is configured where nothing is said. -/
def builtIn : Config :=
  ⟨"kotlinc".toList, ["-script".toList], "kts".toList, "temp_script".toList, none⟩

/-- The time limit in seconds. A limit of zero is none. -/
def timeLimit? (config : Config) : Option Nat :=
  config.timeoutSeconds.filter (0 < ·)

/-- The command that runs a script file with an interpreter. -/
def invocation (config : Config) (interpreter script : Text) : List Text :=
  interpreter :: config.scriptArguments ++ [script]

/-- The values of the two variables that override the configuration. -/
structure Overrides where
  interpreter : Option Text
  timeout : Option Text
deriving DecidableEq, Repr

/-- The interpreter that a variable names. One that is blank names none. -/
def namedInterpreter? (overrides : Overrides) : Option Text :=
  (overrides.interpreter.map Text.trim).filter fun name => !name.isEmpty

def applyInterpreter (config : Config) (overrides : Overrides) : Config :=
  match namedInterpreter? overrides with
  | some program => { config with program := program }
  | none => config

def applyTimeout (config : Config) (overrides : Overrides) : Config × Option ConfigError :=
  match overrides.timeout with
  | none => (config, none)
  | some value =>
    match Text.readWord? (Text.trim value) with
    | some seconds => ({ config with timeoutSeconds := some seconds }, none)
    | none => (config, some (.invalidTimeout value))

/-- Applies the variables one after the other. What has been applied before an error
stays. -/
def applyOverrides (config : Config) (overrides : Overrides) : Config × Option ConfigError :=
  (config.applyInterpreter overrides).applyTimeout overrides

end Config

end ScriptDesk

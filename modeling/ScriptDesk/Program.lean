import ScriptDesk.CommandLine.Reading
import ScriptDesk.Config.Loading
import ScriptDesk.Session.Feed
import ScriptDesk.Session.OneShot

/-!
# The program

The whole program as a function of its arguments and of what it finds around it: the
command line is read, the configuration is loaded, the script is loaded, and then a
session is held. An error on the way is reported with its causes.
-/

namespace ScriptDesk

/-- What the program finds around it: the files, the environment, how scripts are executed
with a configuration, how many octets an extension may have for which a grammar is built, the
whole input, the clock in seconds, the numbers of the tasks of runs, whether the terminal shows
colours, and how many octets it takes if it does not take all. -/
structure Circumstances where
  tree : FileTree
  environment : Environment
  executor : Config → Executor
  extensionLimit : Nat
  input : Octets
  now : Nat
  taskNumber : RunId → TaskNumber
  showsColours : Bool
  room : Option Nat := none

/-- Why the program gives up. -/
inductive ProgramError where
  | configuration (error : ConfigError)
  | setup (error : ConfigError)
  | unreadableScript (path : Text) (fault : Fault)
  | noScript
  | session (error : SessionError)
deriving DecidableEq, Repr

namespace ProgramError

/-- The causes of the error, from the outermost inwards. -/
def chain (wording : FaultWording) : ProgramError → List Text
  | .configuration error => "could not load configuration".toList :: error.chain wording
  | .setup error => "could not set up the script runner".toList :: error.chain wording
  | .unreadableScript path fault => ["failed to read ".toList ++ path, fault.message]
  | .noScript => ["no script given; pass a FILE or use --interactive".toList]
  | .session error => error.chain

/-- What stands in front of a cause: its number if there are several, in five places. -/
def causeMark : Option Nat → Text
  | none => List.replicate 4 ' '
  | some number =>
    let digits := Text.decimal number
    List.replicate (5 - digits.length) ' ' ++ digits ++ ": ".toList

/-- What stands in front of the further lines of a cause. -/
def causeIndent : Option Nat → Text
  | none => List.replicate 4 ' '
  | some _ => List.replicate 7 ' '

def causeText (number : Option Nat) (cause : Text) : Text :=
  causeMark number ++ Text.joinWith ('\n' :: causeIndent number) (Text.segments cause)

def numberedCauses : Nat → List Text → List Text
  | _, [] => []
  | number, cause :: rest => causeText (some number) cause :: numberedCauses (number + 1) rest

/-- The causes as they are reported, each in lines of its own. -/
def causesText : List Text → Text
  | [] => []
  | [cause] => "\n\nCaused by:\n".toList ++ causeText none cause
  | causes => "\n\nCaused by:\n".toList ++ Text.joinWith ['\n'] (numberedCauses 0 causes)

def report (wording : FaultWording) (error : ProgramError) : Text :=
  let chain := error.chain wording
  "Error: ".toList ++ (chain.headD []) ++ causesText chain.tail ++ ['\n']

end ProgramError

/-- How the program ends. -/
inductive Conclusion where
  | exit (code : Nat)
  | usage (error : UsageError)
  | failed (error : ProgramError)
  /-- A run is waited for that does not end. -/
  | waiting
deriving DecidableEq, Repr

/-- What the program has written, and how it ends. -/
structure Completion where
  written : Text
  conclusion : Conclusion
deriving DecidableEq, Repr

namespace Conclusion

def exitCode : Conclusion → Nat
  | .exit code => code
  | .usage error => error.exitCode
  | .failed _ => 1
  | .waiting => 0

end Conclusion

namespace Program

/-- An application with the script of a command line. -/
def prepare (circumstances : Circumstances) (grammar : Grammar) (file : Option Text) :
    Except ProgramError App :=
  let app := App.new grammar (.idle circumstances.tree)
  match file with
  | none => .ok app
  | some path =>
    match app.readFile path with
    | .error fault => .error (.unreadableScript path fault)
    | .ok text => .ok { app with buffer := app.buffer.setText text, source := some path }

/-- What the application sees of the circumstances. -/
def surroundings (circumstances : Circumstances) : Surroundings :=
  ⟨circumstances.now, circumstances.environment.shownHome, circumstances.taskNumber⟩

/-- The end of a session as the end of the program. -/
def conclude {Answer : Type} (exitCode : Answer → Nat) (session : Session)
    (stop : SessionEnd Answer) : Completion :=
  ⟨session.terminal.written,
    match stop with
    | .done answer => .exit (exitCode answer)
    | .failed error => .failed (.session error)
    | .waiting => .waiting⟩

def setting (circumstances : Circumstances) (config : Config) (line : CommandLine) : Setting :=
  ⟨surroundings circumstances, circumstances.executor config,
    circumstances.showsColours && !line.noColour⟩

/-- The application on the terminal. -/
def session (circumstances : Circumstances) (app : App) : Session :=
  ⟨app, ⟨[], circumstances.room⟩⟩

/-- Holds an interactive session on the whole input. -/
def runInteractive (circumstances : Circumstances) (setting : Setting) (app : App) :
    Completion :=
  let interactive := Feed.run setting (session circumstances app) [.chunk circumstances.input]
  conclude (fun _ => 0) interactive.session interactive.stop

def runOnce (circumstances : Circumstances) (setting : Setting) (gotoError : Bool) (app : App) :
    Completion :=
  let (session, stop) := Session.runOnce setting 0 gotoError (session circumstances app)
  conclude Verdict.exitCode session stop

def follow (circumstances : Circumstances) (line : CommandLine) : Completion :=
  match line.resolve circumstances.tree circumstances.environment with
  | .error error => ⟨[], .failed (.configuration error)⟩
  | .ok config =>
    match Diagnostic.grammar? circumstances.extensionLimit config.extension with
    | none => ⟨[], .failed (.setup (.unusableExtension config.extension))⟩
    | some grammar =>
      match prepare circumstances grammar line.file with
      | .error error => ⟨[], .failed error⟩
      | .ok app =>
        let setting := setting circumstances config line
        if line.interactive then runInteractive circumstances setting app
        else if line.file.isNone then ⟨[], .failed .noScript⟩
        else runOnce circumstances setting line.gotoError app

def run (circumstances : Circumstances) (arguments : List Text) : Completion :=
  match CommandLine.read arguments with
  | .error .helpWanted => ⟨CommandLine.helpText, .usage .helpWanted⟩
  | .error .versionWanted => ⟨CommandLine.versionText, .usage .versionWanted⟩
  | .error error => ⟨[], .usage error⟩
  | .ok line => follow circumstances line

end Program

end ScriptDesk

import ScriptDesk.Host
import ScriptDesk.Program

/-!
# The command line

Gathers what the program needs and writes what it answers. The files that the arguments
and the input may ask for are read beforehand.
-/

namespace ScriptDesk.Main

/-- The lines of the input that ask for a file, as the paths that they name. -/
def loadedPaths (input : Octets) : List Text :=
  (Text.lines (Utf8.decodeLossy input)).filterMap fun line =>
    match Message.ofInput line with
    | .load path => some path
    | _ => none

/-- The paths of all files that may be asked for. -/
def wantedPaths (arguments : List Text) (environment : Environment) (input : Octets) :
    List Text :=
  match CommandLine.read arguments with
  | .error _ => []
  | .ok line =>
    line.file.toList ++ [line.config.getD (Config.defaultPath environment)] ++
      loadedPaths input

/-- What stands under a path, if it can be read. -/
def readNode (path : Text) : IO (Option Node) := do
  try
    let content ← IO.FS.readBinFile (String.ofList path)
    return some (.file content.toList false)
  catch error =>
    match error with
    | .inappropriateType _ _ _ => return some .directory
    | _ => return none

/-- The files under the given paths, with what there is on every system. -/
def gather (directory : List Text) (paths : List Text) : IO FileTree := do
  paths.foldlM
    (fun tree path => do
      match ← readNode path with
      | none => return tree
      | some node =>
        let names := Host.pathNames (Utf8.octetText path)
        let absolute := if path.head? = some '/' then names else directory ++ names
        return tree.enterDeep absolute node)
    (Host.baseTree directory)

/-- The value of an environment variable. -/
def lookUp (name : String) : IO (Option Text) :=
  return (← IO.getEnv name).map String.toList

/-- The environment variables that matter. -/
def environment : IO Environment :=
  return {
    home := ← lookUp "HOME"
    userProfile := ← lookUp "USERPROFILE"
    configHome := ← lookUp "XDG_CONFIG_HOME"
    accountHome := ['/']
    overrides :=
      { interpreter := ← lookUp "SCRIPTRUNNER_INTERPRETER"
        timeout := ← lookUp "SCRIPTRUNNER_TIMEOUT_SECS" } }

/-- The whole input, if the arguments ask for a session on it. -/
def readInput (arguments : List Text) : IO Octets := do
  match CommandLine.read arguments with
  | .ok line =>
    if line.interactive then return (← (← IO.getStdin).readBinToEnd).toList else return []
  | .error _ => return []

/-- An estimate of how many octets an extension may have: a compiled pattern takes at most
10485760 octets, and some 32 of them for each octet of the extension. -/
def extensionLimit : Nat := 10485760 / 32

/-- Runs the program with its arguments and gives its exit code. The words of the libraries for
faults in the command line and in the configuration are left out. -/
def run (arguments : List String) : IO UInt32 := do
  let texts := arguments.map String.toList
  let environment ← environment
  let input ← readInput texts
  let directory := Host.pathNames (Utf8.octetText (← IO.currentDir).toString.toList)
  let tree ← gather directory (wantedPaths texts environment input)
  let stdout ← IO.getStdout
  let colourless ← IO.getEnv "NO_COLOR"
  let circumstances : Circumstances :=
    { tree := tree
      environment := environment
      executor := fun config => Host.executor ⟨environment, config, false⟩
      extensionLimit := extensionLimit
      input := input
      now := 0
      taskNumber := fun run => run + 1
      showsColours := colourless.isNone && (← stdout.isTty) }
  let completion := Program.run circumstances texts
  stdout.putStr (String.ofList completion.written)
  match completion.conclusion with
  | .failed error =>
    (← IO.getStderr).putStr (String.ofList (error.report fun _ _ => []))
  | _ => pure ()
  return UInt32.ofNat completion.conclusion.exitCode

end ScriptDesk.Main

/-- Runs the program. -/
def main (arguments : List String) : IO UInt32 :=
  ScriptDesk.Main.run arguments

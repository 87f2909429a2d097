import ScriptDesk.Config.Loading
import ScriptDesk.Launch
import ScriptDesk.Programs
import ScriptDesk.System.Schedule

/-!
# The host

How the steps of a launch go on a system on which the programs run that it has. Interpreters
are searched for among these programs, or at their path. Whatever a script does to the files
is there for the scripts that come after it.
-/

namespace ScriptDesk

/-- What scripts are executed with. -/
structure Host where
  environment : Environment
  config : Config
  /-- The time limit runs out at once. -/
  expires : Bool

namespace Host

def toolDirectory : List Text := ["usr".toList, "bin".toList]

/-- The directories that there are on every system. -/
def baseDirectories : List String :=
  ["/boot", "/etc", "/home", "/media", "/mnt", "/opt", "/proc", "/root", "/run", "/srv", "/sys",
    "/tmp", "/usr/lib", "/usr/local/bin", "/usr/local/sbin", "/usr/sbin", "/var/tmp"]

/-- The files that there are on every system besides the programs. -/
def baseFiles : List (String × String) :=
  [("/etc/passwd", "root:x:0:0:root:/root:/bin/bash\n")]

/-- The links that there are on every system. -/
def baseLinks : List (String × String) :=
  [("/bin", "usr/bin"), ("/lib", "usr/lib"), ("/sbin", "usr/sbin")]

/-- The devices that there are on every system. -/
def baseDevices : List (String × Device) :=
  [("/dev/null", .null), ("/dev/zero", .zero), ("/dev/full", .full), ("/dev/tty", .terminal),
    ("/dev/stdin", .descriptor 0), ("/dev/stdout", .descriptor 1),
    ("/dev/stderr", .descriptor 2)]

/-- The names on a path, without those that lead nowhere. -/
def pathNames (path : Text) : List Text :=
  (FileTree.components path).filter fun name => ¬ name.isEmpty ∧ name ≠ ['.']

/-- What there is on every system, each under its path. -/
def baseEntries : List (List Text × Node) :=
  let below (path : String) (node : Node) : List Text × Node := (pathNames path.toList, node)
  baseDirectories.map (fun path => below path .directory) ++
    baseFiles.map (fun (path, text) => below path (.file (Utf8.encode text.toList) false)) ++
    baseLinks.map (fun (path, target) => below path (.link target.toList)) ++
    baseDevices.map (fun (path, device) => below path (.device device)) ++
    ((List.range 10).map fun number =>
      (pathNames "/dev/fd".toList ++ [Text.decimal number], .device (.descriptor number))) ++
    Programs.names.map fun name => (toolDirectory ++ [name], .tool name)

/-- The files of a system with a working directory that holds nothing. -/
def baseTree (directory : List Text) : FileTree :=
  let empty : FileTree := ⟨[], directory⟩
  ((directory, .directory) :: baseEntries).foldl
    (fun tree (path, node) => tree.enterDeep path node) empty

/-- Whether a path begins at the root or, in so many words, at the working directory. -/
def hasStart (path : Text) : Bool :=
  path.head? = some '/' || (FileTree.components path).head? = some ['.']

/-- Whether a path has more than one step, so that it says where an interpreter is. -/
def saysWhere (path : Text) : Bool :=
  decide (1 < (pathNames path).length + if hasStart path then 1 else 0)

/-- The path of an interpreter, as octets. A mere name is searched for among the programs of
the system; any other path must lead to a file that can be executed. -/
def resolve (tree : FileTree) (program : Text) : Except Text Text :=
  let name := Utf8.octetText program
  let path :=
    if name.head? = some '/' then name
    else if saysWhere name then FileTree.pathText (tree.workingDirectory ++ pathNames name)
    else Config.below (FileTree.pathText toolDirectory) name
  if tree.isExecutable path then .ok path else .error LaunchError.noBinary

/-- The directory for the files that scripts are written to. -/
def scriptDirectory : Text := "/tmp".toList

/-- What distinguishes the files that scripts are written to. -/
def scriptMark : Text := "k7Qm2x".toList

/-- The path of the file that a script is written to. -/
def scriptPath (config : Config) : Text :=
  let name := config.filePrefix ++ scriptMark ++ '.' :: config.extension
  match name with
  | '/' :: _ => name
  | _ => Config.below scriptDirectory name

/-- The absolute path of a file that is to be created, if it can be. -/
def creatable (tree : FileTree) (path : Text) : Except Fault (List Text) := do
  let absolute ← tree.follow path
  if path.getLast? = some '/' then throw .isDirectory
  else if tree.node? absolute.dropLast = some .directory then return absolute
  else throw .notFound

def scriptVariables (environment : Environment) : List (Text × Text) :=
  let entry (name : String) (value : Option Text) : List (Text × Text) :=
    value.toList.map fun value => (name.toList, Utf8.octetText value)
  entry "HOME" environment.home ++ entry "PATH" (some Search.defaultPath) ++
    entry "USERPROFILE" environment.userProfile ++
    entry "XDG_CONFIG_HOME" environment.configHome ++
    entry "SCRIPTRUNNER_INTERPRETER" environment.overrides.interpreter ++
    entry "SCRIPTRUNNER_TIMEOUT_SECS" environment.overrides.timeout

/-- How many requests the programs that a script starts may make. -/
def requestLimit : Nat := 1200000

/-- How many seconds are waited for a script without a time limit. One that takes longer counts
as one that does not end. -/
def patience : Nat := 86400

/-- How an interpreter has gone on from its start: the number of its process, the system that is
left, how it has ended, if it has, what has been written, and which wait is longer than the time
limit. -/
structure Course where
  leader : Launch.ProcessId
  system : System
  exit : Option ExitStatus
  written : Text
  overdue : Option Launch.Wait

/-- Lets the processes of a group go on until it is over, or until the time limit has run
out. A group that is not over is ended. A script that leaves something in the background may
end before its output does. -/
def follow (host : Host) (group : Nat) (system : System) : Course :=
  let deadline := system.now + host.config.timeLimit?.getD patience * 1000000
  let gone :=
    if host.expires then system
    else system.run Programs.run group deadline requestLimit 0
  let status := gone.status? group
  let isOver := gone.isOver group
  let left := if isOver then gone else gone.endGroup group
  { leader := .ofTurn group
    system := left.forget group
    exit := if isOver ∨ host.config.timeLimit?.isSome = true then status else none
    written := if isOver then gone.written group else []
    overdue :=
      if host.expires then some .exit
      else if isOver then none
      else if status.isNone then some .exit
      else some .capture }

/-- Starts the interpreter at a path on a file with the script, which is there only as long as
the interpreter goes on. -/
def start (host : Host) (script interpreter : Text) (place : List Text) (system : System) :
    Except Fault Course := do
  let operands := (host.config.invocation [] (scriptPath host.config)).drop 1
  if operands.any fun operand => operand.contains '\x00' then throw .argumentHoldsNul
  let arguments := interpreter :: operands.map Utf8.octetText
  let variables_ := scriptVariables host.environment
  let file := Node.file (Utf8.encode script) false
  let ready := { system with files := system.files.enter place file }
  let _ ← Execution.resolve ready.files interpreter arguments variables_
  let action : Action Nat := do
    let _ ← Action.reply (.startProgram interpreter arguments variables_)
    return 127
  let (begun, group) := ready.begin_ action
  let course := host.follow group begun
  let left := { course.system with files := course.system.files.remove place }
  return { course with system := left }

/-- How the steps of a launch go, given the first of them and how the interpreter has gone
on. -/
def steps (resolved : Except Text Text) (created : Except Fault (List Text))
    (started : Except Fault Course) : Launch.Steps :=
  let course := started.toOption
  { resolve := resolved
    create := created.map fun _ => ()
    write := .ok ()
    flush := .ok ()
    pipe := .ok ()
    clone := .ok ()
    spawn := started.map (·.leader)
    exit := (course.bind (·.exit)).map .ok
    join := some (.ok ())
    read := .ok (Utf8.ofCharacters ((course.map (·.written)).getD []))
    overdue := course.bind (·.overdue) }

def execute (host : Host) (system : System) (script : Text) : System × Launch.Report :=
  let resolved := resolve system.files host.config.program
  let created := creatable system.files (Utf8.octetText (scriptPath host.config))
  match resolved, created with
  | .ok interpreter, .ok place =>
    let started := host.start script interpreter place system
    let left := (started.toOption.map (·.system)).getD system
    (left, Launch.launch host.config (steps resolved created started))
  | _, _ =>
    (system, Launch.launch host.config (steps resolved created (.error .notFound)))

def executor (host : Host) : Executor where
  gated _ := false
  execute system script :=
    let (left, report) := host.execute system script
    (left, report.ending)

end Host

end ScriptDesk

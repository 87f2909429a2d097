import ScriptDesk.ExitStatus
import ScriptDesk.Shell.Command
import ScriptDesk.System.Search
import ScriptDesk.Text.Numeral

/-!
# The state of a shell

What a running shell knows: its variables and parameters, its options, the commands that are
kept for signals, and the commands that run in the background. Nothing of the system is part
of it.
-/

namespace ScriptDesk.Shell

/-- A variable, which may be set. -/
structure Binding where
  name : Text
  value : Option Text
  /-- Programs see the variable. -/
  isExported : Bool
  isReadOnly : Bool

/-- What is restored when a function ends. -/
inductive Kept where
  | binding (binding : Binding)
  | unset (name : Text)
  | options (letters : Text)

/-- What is skipped before the next command is run. -/
inductive Skip where
  | nothing
  /-- The rest of a number of loops. -/
  | loops (count : Nat)
  /-- The rest of one round, after the rest of the loops within it. -/
  | round (count : Nat)
  /-- The rest of a function or of a file. The flag says whether a status was given. -/
  | function (given : Bool)
deriving DecidableEq

namespace Skip

/-- What is left to skip behind a function or a file. -/
def afterFunction : Skip → Skip
  | .function _ => .nothing
  | other => other

end Skip

/-- Commands that run beside the shell, by their processes. -/
structure Job where
  slot : Nat
  processes : List (Nat × Option ExitStatus)
  /-- The job has ended, and nobody has been shown that. -/
  isChanged : Bool
  /-- The job has been waited for. -/
  isAwaited : Bool

namespace Job

/-- Whether all processes of the job have ended. -/
def isOver (job : Job) : Bool :=
  job.processes.all fun (_, status) => status.isSome

def lastStatus (job : Job) : ExitStatus :=
  ((job.processes.getLast?).bind Prod.snd).getD .unknown

def lastProcess (job : Job) : Nat :=
  (job.processes.getLast?.map Prod.fst).getD 0

end Job

/-- A limit on what processes may use, by its letter: the limit itself, and how far it may be
raised. -/
structure Limit where
  letter : Char
  soft : Option Nat
  hard : Option Nat

/-- A program that has been found. -/
structure Found where
  name : Text
  path : Text
  /-- The working directory has changed since the program was found. -/
  isOld : Bool

/-- The state of a shell. -/
structure State where
  /-- The name by which the shell was called. -/
  name : Text
  /-- The command of the shell that is carried out. -/
  commandName : Option Text
  /-- What the command of the shell has written so far. It is passed on when the command
  ends. -/
  held : Text
  line : Nat
  /-- The line up to which the script at hand has been read. -/
  lastLine : Nat
  parameters : List Text
  /-- The next parameter to be looked at for options, and how much of it has been read. -/
  optionIndex : Nat
  optionOffset : Option Nat
  bindings : List Binding
  /-- What is restored when commands end, the innermost first. -/
  kept : List (List Kept)
  functions : List (Text × Option Command)
  aliases : List (Text × Text)
  documents : List (Nat × Word)
  nextDocument : Nat
  /-- The letters of the options that are set. -/
  options : Text
  traps : List (Nat × Text)
  status : Nat
  /-- The status that a command for a signal must not change. -/
  savedStatus : Option Nat
  /-- The status of the last command whose output was put into the command at hand. -/
  outputStatus : Nat
  lastBackground : Nat
  /-- The jobs, the latest first. -/
  jobs : List Job
  skip : Skip
  loopDepth : Nat
  functionDepth : Nat
  /-- The number of the process that the shell was started as. -/
  process : Nat
  parent : Nat
  /-- The programs that have been found. -/
  found : List Found
  mask : Nat
  limits : List Limit
  /-- What stands in front of traces is being worked out. -/
  isTracing : Bool
  /-- The working directory by the names that led there. -/
  directory : Text
  /-- The signals that have been noted, and that nothing has been done about. -/
  pendingSignals : List Nat
  /-- The signals that stay ignored whatever is said about them. -/
  deafTo : List Nat

/-- The characters that separate fields, where nothing else is said. -/
def defaultSeparators : Text := [' ', '\t', '\n']

/-- The place of a name in the order in which names are listed. -/
def listingPlace (slots : Nat) (name : Text) : Nat :=
  ((name.head?.map fun letter => letter.toNat * 16).getD 0 +
    name.foldl (fun total letter => total + letter.toNat) 0) % slots

/-- Entries in the order in which their names are listed. -/
def listed {Value : Type} (slots : Nat) (nameOf : Value → Text) (entries : List Value) :
    List Value :=
  (List.range slots).flatMap fun place =>
    entries.filter fun entry => listingPlace slots (nameOf entry) = place

namespace State

/-- The variables that every shell begins with. -/
def firstBindings (parent : Nat) : List Binding :=
  [⟨"IFS".toList, some defaultSeparators, false, false⟩,
    ⟨"OPTIND".toList, some ['1'], false, false⟩,
    ⟨"PATH".toList, some Search.defaultPath, false, false⟩,
    ⟨"PPID".toList, some (Text.decimal parent), false, false⟩,
    ⟨"PS1".toList, some "# ".toList, false, false⟩,
    ⟨"PS2".toList, some "> ".toList, false, false⟩,
    ⟨"PS4".toList, some "+ ".toList, false, false⟩]

def firstLimits : List Limit :=
  [⟨'t', none, none⟩, ⟨'f', none, none⟩, ⟨'d', none, none⟩, ⟨'s', some 8192, none⟩,
    ⟨'c', none, none⟩, ⟨'m', none, none⟩, ⟨'l', some 8192, some 8192⟩, ⟨'p', none, none⟩,
    ⟨'n', some 1048576, some 1048576⟩, ⟨'v', none, none⟩, ⟨'w', none, none⟩,
    ⟨'r', some 0, some 0⟩]

/-- A shell at its start, given its name, its process and the parent of that, and the signals
that are ignored from the start. -/
def start (name : Text) (process parent : Nat) (ignored : List Nat) : State where
  name := name
  commandName := none
  held := []
  line := 0
  lastLine := 1
  parameters := []
  optionIndex := 1
  optionOffset := none
  bindings := firstBindings parent
  kept := []
  functions := []
  aliases := []
  documents := []
  nextDocument := 0
  options := []
  traps := []
  status := 0
  savedStatus := none
  outputStatus := 0
  lastBackground := 0
  jobs := []
  skip := .nothing
  loopDepth := 0
  functionDepth := 0
  process := process
  parent := parent
  found := []
  mask := 18
  limits := firstLimits
  isTracing := false
  directory := []
  pendingSignals := []
  deafTo := ignored

def binding? (state : State) (name : Text) : Option Binding :=
  state.bindings.find? fun binding => binding.name = name

/-- The value of a variable, if it is set. -/
def value? (state : State) (name : Text) : Option Text :=
  (state.binding? name).bind (·.value)

/-- The value of a variable, or none of its characters. -/
def valueOf (state : State) (name : String) : Text :=
  (state.value? name.toList).getD []

/-- Whether an option is set. -/
def has (state : State) (letter : Char) : Bool :=
  state.options.contains letter

/-- Sets an option, or unsets it. -/
def setOption (state : State) (letter : Char) (isOn : Bool) : State :=
  let others := state.options.filter (· ≠ letter)
  { state with options := if isOn then letter :: others else others }

/-- Enters a variable in the place of the one of that name. -/
def enter (state : State) (binding : Binding) : State :=
  if state.bindings.any fun known => known.name = binding.name then
    { state with
      bindings := state.bindings.map fun known =>
        if known.name = binding.name then binding else known }
  else { state with bindings := state.bindings ++ [binding] }

def leaveOut (state : State) (name : Text) : State :=
  { state with bindings := state.bindings.filter fun binding => binding.name ≠ name }

/-- What a new value of some variables changes beside them. -/
def noticeChange (state : State) (name value : Text) : State :=
  if name = "PATH".toList then { state with found := [] }
  else if name = "OPTIND".toList then
    { state with optionIndex := max 1 (Text.digitsValue value), optionOffset := none }
  else state

/-- Sets a variable, which may become visible to programs. -/
def assign (state : State) (name value : Text) (isExported : Bool) : State :=
  let before := (state.binding? name).getD ⟨name, none, false, false⟩
  let isExported := isExported || before.isExported || state.has 'a'
  (state.enter { before with value := some value, isExported := isExported }).noticeChange
    name value

/-- Whether a variable must not be set. -/
def isReadOnly (state : State) (name : Text) : Bool :=
  ((state.binding? name).map (·.isReadOnly)).getD false

/-- Keeps a variable as it is, to be restored when the innermost command ends. -/
def keep (state : State) (name : Text) : State :=
  let kept :=
    match state.binding? name with
    | some binding => Kept.binding binding
    | none => Kept.unset name
  match state.kept with
  | [] => state
  | innermost :: others => { state with kept := (kept :: innermost) :: others }

def restoreOne (state : State) : Kept → State
  | .binding binding =>
    (state.enter binding).noticeChange binding.name (binding.value.getD [])
  | .unset name => state.leaveOut name
  | .options letters => { state with options := letters }

/-- Restores what has been kept since the innermost command began. -/
def restore (state : State) : State :=
  match state.kept with
  | [] => state
  | innermost :: others => innermost.foldl restoreOne { state with kept := others }

/-- Restores what has been kept by all but a number of commands. The bound is how many keep
something. -/
def restoreTo (depth : Nat) : Nat → State → State
  | 0, state => state
  | bound + 1, state =>
    if state.kept.length ≤ depth then state else restoreTo depth bound state.restore

/-- The variables that programs see, with their values. -/
def environment (state : State) : List (Text × Text) :=
  (listed 39 Binding.name state.bindings).filterMap fun binding =>
    if binding.isExported then binding.value.map fun value => (binding.name, value) else none

def job? (state : State) (slot : Nat) : Option Job :=
  state.jobs.find? fun job => job.slot = slot

def dropJob (state : State) (slot : Nat) : State :=
  { state with jobs := state.jobs.filter fun job => job.slot ≠ slot }

/-- The first slot for a job, from a given one on. A job that has been waited for leaves
its slot. The bound is the number of jobs. -/
def freeSlot (state : State) : Nat → Nat → Nat
  | 0, slot => slot
  | bound + 1, slot =>
    match state.job? slot with
    | none => slot
    | some job => if job.isOver ∧ job.isAwaited then slot else state.freeSlot bound (slot + 1)

/-- Enters a job without processes, and gives its slot. -/
def beginJob (state : State) : State × Nat :=
  let slot := state.freeSlot state.jobs.length 1
  let left := state.dropJob slot
  ({ left with jobs := ⟨slot, [], false, false⟩ :: left.jobs }, slot)

def changeJob (state : State) (slot : Nat) (change : Job → Job) : State :=
  { state with
    jobs := state.jobs.map fun job => if job.slot = slot then change job else job }

/-- Notes the end of a process, and gives the slot of its job. -/
def noteEnd (state : State) (process : Nat) (status : ExitStatus) : State × Option Nat :=
  match state.jobs.find? fun job => job.processes.any fun (number, _) => number = process with
  | none => (state, none)
  | some job =>
    let processes := job.processes.map fun (number, known) =>
      (number, if number = process then some status else known)
    let noted := { job with processes := processes }
    (state.changeJob job.slot fun _ => { noted with isChanged := noted.isOver }, some job.slot)

/-- The first seventeen words are the names of the options, each with its letter. -/
def optionNames : List (String × Char) :=
  [("errexit", 'e'), ("noglob", 'f'), ("ignoreeof", 'I'), ("interactive", 'i'),
    ("monitor", 'm'), ("noexec", 'n'), ("stdin", 's'), ("xtrace", 'x'), ("verbose", 'v'),
    ("vi", 'V'), ("emacs", 'E'), ("noclobber", 'C'), ("allexport", 'a'), ("notify", 'b'),
    ("nounset", 'u'), ("privileged", 'p'), ("nolog", '\x01'), ("debug", '\x02')]

/-- The state as it is shown while options are being read: nothing is off. -/
def undecided (state : State) : State :=
  { state with options := optionNames.map Prod.snd }

/-- The value of a parameter that is no word, if it is set. -/
def special? (state : State) (name : Text) : Option Text :=
  match name with
  | ['#'] => some (Text.decimal state.parameters.length)
  | ['?'] => some (Text.decimal state.status)
  | ['$'] => some (Text.decimal state.process)
  | ['!'] => if state.lastBackground = 0 then none else some (Text.decimal state.lastBackground)
  | ['-'] =>
    some ((optionNames.reverse.map Prod.snd).filter fun letter =>
      state.has letter && 32 < letter.toNat)
  | ['0'] => some state.name
  | name =>
    if name.all Char.isDigit then
      let number := Text.digitsValue name
      if number = 0 then some state.name else state.parameters[number - 1]?
    else state.value? name

end State

end ScriptDesk.Shell

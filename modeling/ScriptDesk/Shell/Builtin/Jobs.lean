import ScriptDesk.Shell.Argument
import ScriptDesk.Shell.Child

/-!
# Commands for jobs and signals

The commands of the shell that show jobs, wait for them, send signals, and keep commands for
signals.
-/

namespace ScriptDesk.Shell.Builtin

open Run

/-- How a job has ended, or that it has not, in words. -/
def jobWords (job : Job) : Text :=
  if job.isOver = false then "Running".toList
  else
    match job.lastStatus with
    | .exited 0 => "Done".toList
    | .exited code => "Done(".toList ++ Text.signedDecimal code ++ [')']
    | .signalled signal => Signal.words signal
    | .unknown => []

/-- The column in which the commands of jobs stand. -/
def jobColumn : Nat := 33

/-- The process numbers of a job, each with how it stands in a table. -/
def processRows (job : Job) (indent : Nat) : Text :=
  (job.processes.drop 1).flatMap fun (number, _) =>
    let head := List.replicate indent ' ' ++ Text.decimal number ++ [' ']
    " |\n".toList ++ head ++ List.replicate (max 1 (jobColumn - head.length)) ' '

/-- A job as it is shown, given which jobs are the last two. -/
def shownJob (jobs : List Job) (letter : Option Char) (job : Job) : Text :=
  let first := (job.processes.head?.map Prod.fst).getD 0
  if letter = some 'p' then Text.decimal first ++ ['\n']
  else
    let mark :=
      if (jobs.head?.map (·.slot)) = some job.slot then '+'
      else if (jobs[1]?.map (·.slot)) = some job.slot then '-'
      else ' '
    let number := '[' :: Text.decimal job.slot ++ [']', ' ', mark, ' ']
    let process := if letter = some 'l' then Text.decimal first ++ [' '] else []
    let head := number ++ process ++ jobWords job
    let padded := head ++ List.replicate (max 1 (jobColumn - head.length)) ' '
    let others :=
      if letter = some 'l' then processRows job number.length
      else (job.processes.drop 1).flatMap fun _ => " | ".toList
    padded ++ others ++ ['\n']

def jobOf (text : Text) : Run Job := do
  let jobs := (← state).jobs
  let unknown : Run Job := fail ("No such job: ".toList ++ text)
  let current : Run Job :=
    match jobs with
    | job :: _ => give job
    | [] => fail "No current job".toList
  match text with
  | ['%'] => current
  | ['%', '%'] => current
  | ['%', '+'] => current
  | ['%', '-'] =>
    match jobs with
    | _ :: job :: _ => give job
    | _ => fail "No previous job".toList
  | '%' :: name =>
    match (Numeral.ofDigits? name).bind fun slot => jobs.find? fun job => job.slot = slot with
    | some job => give job
    | none => unknown
  | _ => unknown

/-- Writes how a job stands. A job that has ended is then forgotten. -/
def showJob (letter : Option Char) (job : Job) : Run Unit := do
  let _ ← output (shownJob (← state).jobs letter job)
  if letter ≠ some 'p' then
    let _ ← passOn
    change fun state =>
      if job.isOver then state.dropJob job.slot
      else state.changeJob job.slot fun job => { job with isChanged := false }

/-- Writes how jobs stand. -/
def jobs (arguments : List Text) : Run Nat := do
  let (found, names) ← options [('l', false), ('p', false)] arguments
  let letter := found.getLast?.map Prod.fst
  if names.isEmpty then
    collect roundLimit
    let all ← state
    forEach all.jobs fun job => do
      let _ ← output (shownJob (← state).jobs letter job)
      if letter ≠ some 'p' ∧ job.isOver then change fun state => state.dropJob job.slot
    return 0
  else
    forEach names fun name => do showJob letter (← jobOf name)
    return 0

/-- Refuses to move a job, as jobs of this shell stay where they are. -/
def moveJob (arguments : List Text) : Run Nat := do
  let names ← withoutOptions arguments
  let name := names.headD "(null)".toList
  let _ ← jobOf (names.headD ['%'])
  fail ("job ".toList ++ name ++ " not created under job control".toList)

/-- The status of a wait that signals have come in between. -/
def interruptedStatus : Run Nat := do
  let noted ← ask .notedSignals
  change fun state => { state with pendingSignals := noted }
  return 128 + noted.getLast?.getD 0

/-- Waits for all jobs. The bound is how often a job may end. -/
def waitForAll : Nat → Run Nat
  | 0 => return 0
  | bound + 1 => do
    let before := (← state).jobs
    let ended := before.takeWhile Job.isOver
    change fun state => { state with
      jobs := state.jobs.map fun job =>
        if ended.any fun other => other.slot = job.slot then { job with isAwaited := true }
        else job }
    if ended.length = before.length then return 0
    match ← ask (.wait true) with
    | .ended child status =>
      noteEnd none child status
      waitForAll bound
    | .interrupted => interruptedStatus
    | .childless => return 0

/-- Waits for jobs one after the other, given the status of the last one. -/
def waitForEach : Nat → List Text → Run Nat
  | status, [] => return status
  | status, text :: rest => do
    let job ←
      if text.head? = some '%' then pure (some (← jobOf text))
      else
        let process ← number text
        pure ((← state).jobs.find? fun job => job.lastProcess = process)
    match job with
    | none => waitForEach status rest
    | some job =>
      if ← awaitJob job.slot true roundLimit then interruptedStatus
      else
        change fun state =>
          state.changeJob job.slot fun job => { job with isAwaited := true }
        let ended := (((← state).job? job.slot).map statusOf).getD 127
        waitForEach ended rest

def wait (arguments : List Text) : Run Nat := do
  let names ← withoutOptions arguments
  if names.isEmpty then waitForAll roundLimit else waitForEach 127 names

/-- How `kill` is used. -/
def killUsage : Text :=
  ("Usage: kill [-s sigspec | -signum | -sigspec] [pid | job]... or\n" ++
    "kill -l [exitstatus]").toList

/-- Whom a text that is given to `kill` names. -/
def addressee (text : Text) : Run Addressee := do
  match text with
  | '%' :: _ => return .group (((← jobOf text).processes.head?.map Prod.fst).getD 0)
  | '-' :: digits => return .group (← number digits)
  | _ =>
    let process ← number text
    return if process = 0 then .ownGroup else .process process

/-- Sends a signal to processes one after the other, given the status so far. -/
def sendAll (signal : Nat) : Nat → List Text → Run Nat
  | status, [] => return status
  | status, text :: rest => do
    if ← ask (.signal (← addressee text) signal) then sendAll signal status rest
    else
      complain "No such process\n".toList
      sendAll signal 1 rest

/-- The names of the signals, one in a line. -/
def signalList : Text :=
  "0\n".toList ++ Signal.names.flatMap fun name => name.toList ++ ['\n']

/-- Writes the name of the signal that a number or a status stands for. -/
def nameSignal (text : Text) : Run Nat := do
  let given ← number text
  let signal := if 128 < given then given - 128 else given
  if 0 < signal ∧ signal < Signal.limit then output (Signal.name signal ++ ['\n'])
  else fail ("invalid signal number or exit status: ".toList ++ text)

/-- Sends signals, or names them. -/
def kill (arguments : List Text) : Run Nat := do
  match arguments with
  | [] => fail killUsage
  | ('-' :: name) :: rest =>
    match Signal.ofText? name 1 with
    | some signal => if rest.isEmpty then fail killUsage else sendAll signal 0 rest
    | none =>
      let (found, rest) ← options [('l', false), ('s', true)] arguments
      let lists := found.any fun (letter, _) => letter = 'l'
      let signal ←
        match found.reverse.find? fun (letter, _) => letter = 's' with
        | none => pure none
        | some (_, name) =>
          match Signal.ofText? name 1 with
          | some signal => pure (some signal)
          | none => fail ("invalid signal number or name: ".toList ++ name)
      if lists then
        if signal.isSome then fail killUsage
        match rest with
        | [] => output signalList
        | text :: _ => nameSignal text
      else if rest.isEmpty then fail killUsage
      else sendAll (signal.getD 15) 0 rest
  | processes => sendAll 15 0 processes

/-- What the shell does about a signal for which a command is kept. -/
def dispositionOf (action : Option Text) : Disposition :=
  match action with
  | none => .ordinary
  | some action => if action.isEmpty then .ignored else .noted

/-- Keeps a command for a signal, or none. -/
def setTrap (action : Option Text) (signal : Nat) : Run Unit := do
  change fun state =>
    let others := state.traps.filter fun (known, _) => known ≠ signal
    { state with
      traps :=
        match action with
        | some action => (signal, action) :: others
        | none => others }
  if signal ≠ 0 ∧ (← state).deafTo.contains signal = false then
    ask (.react signal (dispositionOf action))

/-- Keeps a command for several signals. -/
def setTraps (action : Option Text) : List Text → Run Nat
  | [] => return 0
  | name :: rest =>
    match Signal.ofText? name 0 with
    | none => do
      complainPlainly ("trap: ".toList ++ name ++ ": bad trap".toList)
      return 1
    | some signal => do
      setTrap action signal
      setTraps action rest

/-- The commands that are kept for signals, as commands that would keep them. -/
def shownTraps (state : State) : Text :=
  (List.range Signal.limit).flatMap fun signal =>
    match state.traps.lookup signal with
    | none => []
    | some action =>
      "trap -- ".toList ++ singleQuoted action ++ ' ' :: Signal.name signal ++ ['\n']

/-- Keeps commands for signals, or shows them. -/
def trap (arguments : List Text) : Run Nat := do
  let arguments ← withoutOptions arguments
  match arguments with
  | [] => output (shownTraps (← state))
  | [name] => setTraps none [name]
  | first :: names =>
    if (Signal.ofDigits? first).isSome then setTraps none (first :: names)
    else if first = ['-'] then setTraps none names
    else setTraps (some first) names

end ScriptDesk.Shell.Builtin

import ScriptDesk.Shell.Expansion
import ScriptDesk.Shell.Signal

/-!
# Shells beside a shell

A shell doubles itself for a command that has a shell of its own. The new shell knows what
the old one knows, but for its jobs and for most of the commands that are kept for signals.
The old shell may wait for it, or go on and learn later how it ended.
-/

namespace ScriptDesk.Shell

/-- How a new shell is related to the old one. -/
inductive Relation where
  | foreground
  | background
  /-- The new shell gives the output of a command. -/
  | reader
deriving DecidableEq

namespace Run

/-- How the shell ends, given why it was broken off. -/
abbrev Ending := Escape → Run Unit

/-- Forgets the commands that are kept for signals. What is ignored stays so. -/
def clearTraps : Run Unit := do
  let state ← Run.state
  let (kept, left) := state.traps.partition fun (_, action) => action.isEmpty
  change fun state => { state with traps := kept }
  forEach left fun (signal, _) =>
    if signal = 0 then give () else ask (.react signal .ordinary)

/-- Puts a new shell into the background. -/
def leaveForeground (isFirst : Bool) : Run Unit := do
  ask (.react 2 .ignored)
  ask (.react 3 .ignored)
  if isFirst then
    let _ ← ask (.openFile "/dev/null".toList .read 0)

/-- Doubles the shell for a job, and gives the number of the new shell. The new shell does
something and ends. -/
def fork (ending : Ending) (relation : Relation) (slot : Option Nat) (body : Run Unit) :
    Run Nat := do
  let number ← ask .fork
  if number = 0 then
    let isFirst := ((slot.bind (← state).job?).map fun job => job.processes.isEmpty).getD true
    clearTraps
    if relation = .background then leaveForeground isFirst
    change fun state => { state with jobs := [] }
    match ← attempt body with
    | .ok () => ending .finish
    | .error escape => ending escape
    exit 0
  else
    match slot with
    | none => return number
    | some slot =>
      change fun state =>
        let changed := state.changeJob slot fun job =>
          { job with processes := job.processes ++ [(number, none)] }
        if relation = .background then { changed with lastBackground := number } else changed
      return number

/-- Notes the end of a child. If it belongs to the job that is waited for, the signal that
has ended it is shown. -/
def noteEnd (awaited : Option Nat) (child : Nat) (status : ExitStatus) : Run Unit := do
  let slot ← changeWith fun state => state.noteEnd child status
  match status with
  | .signalled signal =>
    match if slot.isSome ∧ slot = awaited then Signal.notice? signal else none with
    | some words => complainPlainly words
    | none => give ()
  | _ => give ()

/-- Learns of all children that have ended. The bound is how many there may be. -/
def collect : Nat → Run Unit
  | 0 => give ()
  | bound + 1 => do
    match ← ask .collect with
    | none => give ()
    | some (child, status) =>
      noteEnd none child status
      collect bound

/-- Waits until a job is over. Tells whether a signal came before. -/
def awaitJob (slot : Nat) (interruptible : Bool) : Nat → Run Bool
  | 0 => give false
  | bound + 1 => do
    match (← state).job? slot with
    | none => give false
    | some job =>
      if job.isOver then give false
      else
        match ← ask (.wait interruptible) with
        | .ended child status =>
          noteEnd (some slot) child status
          awaitJob slot interruptible bound
        | .interrupted => give true
        | .childless => give false

def statusOf (job : Job) : Nat :=
  job.lastStatus.code.toNat

/-- Waits for a job in the foreground, and gives its status. -/
def finishJob (slot : Nat) : Run Nat := do
  let _ ← awaitJob slot false roundLimit
  let status := (((← state).job? slot).map statusOf).getD 127
  change fun state => state.dropJob slot
  return status

def beginJob : Run Nat :=
  changeWith State.beginJob

/-- What a process that has been started for it writes. -/
def outputOf (interpreter : Interpreter) (ending : Ending) : OutputReader
  | none => return []
  | some command => do
    let (source, target) ← ask .pipe
    let slot ← beginJob
    let _ ← fork ending .reader (some slot) do
      ask (.close source)
      if target ≠ 1 then
        let _ ← ask (.duplicate target 1)
        ask (.close target)
      let _ ← interpreter.evaluate ⟨true, false⟩ (some command)
    ask (.close target)
    let text ← lift (Action.readAll source)
    ask (.close source)
    let status ← finishJob slot
    change fun state => { state with outputStatus := status }
    return text

end Run

/-- What is needed to work out words: how commands are carried out, and how a shell ends. -/
structure Worker where
  interpreter : Interpreter
  ending : Run.Ending

namespace Worker

def items (worker : Worker) (purpose : Purpose) (word : Word) : Run (List Item) := do
  let gathered ← partItems (Run.outputOf worker.interpreter worker.ending) purpose true word []
  return gathered.reverse.flatten

def text (worker : Worker) (purpose : Purpose) (word : Word) : Run Text := do
  return Item.text (← worker.items purpose word)

def fields (worker : Worker) (word : Word) : Run (List Text) := do
  let items ← worker.items .fields word
  let state ← Run.state
  let separators := (state.value? "IFS".toList).getD defaultSeparators
  let fields := cutFields separators items
  if state.has 'f' ∨ fields.all fun field => !field.isPattern then
    return fields.map Field.text
  else
    let tree ← Run.ask .look
    return fields.flatMap (Field.paths tree)

def allFields (worker : Worker) : List Word → List (List Text) → Run (List Text)
  | [], gathered => return gathered.reverse.flatten
  | word :: rest, gathered => do
    worker.allFields rest ((← worker.fields word) :: gathered)

/-- A word that may be an assignment, worked out without being cut. -/
def assignmentText (worker : Worker) (word : Word) : Run Text := do
  match assignment? word with
  | some (name, value) => return name ++ '=' :: (← worker.text .value value)
  | none => worker.text .value word

end Worker

end ScriptDesk.Shell

import ScriptDesk.Shell.Child
import ScriptDesk.Shell.Grammar

/-!
# Carrying out scripts

A script is carried out line by line: the commands of a line are read, and carried out before
the next line is read. Commands that are kept for signals are scripts, too; they are carried
out between other commands, and at the end of the shell.
-/

namespace ScriptDesk.Shell

/-- How a command is carried out. -/
abbrev Evaluator := Flags → Option Command → Run Nat

/-- A script as far as it has not been read: its text, the number of its next line, and the
descriptor that more of it may come from. -/
structure Script where
  text : Text
  line : Nat
  more : Option Nat
  /-- The script stands in a file, so that its lines can be shown as they are read. -/
  isFile : Bool

/-- The commands of a line, and what follows it. -/
structure ScriptLine where
  command : Option Command
  rest : Script

namespace Script

def ofText (text : Text) : Script :=
  ⟨text, 1, none, false⟩

def ofDescriptor (descriptor : Nat) : Script :=
  ⟨[], 1, some descriptor, true⟩

/-- How many octets of a script are read at once. -/
def pieceSize : Nat := 8192

def firstLines : Nat → Text → Text
  | _, [] => []
  | 0, _ => []
  | count + 1, character :: rest =>
    if character = '\n' then '\n' :: firstLines count rest
    else character :: firstLines (count + 1) rest

/-- Shows what has been read of a file, if that is wanted. -/
def show_ (script : Script) (text : Text) : Run Unit := do
  if script.isFile ∧ (← Run.state).has 'v' then
    let _ ← Run.ask (.write 2 text)

/-- A text as a document in which values stand for themselves. -/
def documentOf (state : State) (text : Text) : Word :=
  let reader := Reader.start text 1 state.aliases 0
  let endless : AwaitedDocument := ⟨0, ['\n'], false, false⟩
  let read := (Reading.readDocument (pure none) (pure none) endless).run reader
  match read with
  | .ok (_, reader) => (reader.documents.lookup 0).getD []
  | .error _ => [.quoted text]

/-- Reads more of a script. -/
def extend (script : Script) (descriptor : Nat) : Run Script := do
  match ← Run.ask (.read descriptor pieceSize) with
  | .ok [] => return { script with more := none }
  | .ok piece => return { script with text := script.text ++ withoutNul piece }
  | .error _ => return { script with more := none }

/-- Reads the commands of the next line. There is no answer if nothing is left. The bound is
how often more may have to be read. -/
def next : Nat → Script → Run (Option ScriptLine)
  | 0, _ => return none
  | bound + 1, script => do
    let state ← Run.state
    let reader := Reader.start script.text script.line state.aliases state.nextDocument
    match Reading.nextCommands.run reader, script.more with
    | .error _, some descriptor => next bound (← script.extend descriptor)
    | .error fault, none =>
      script.show_ (firstLines (fault.line + 1 - script.line) script.text)
      Run.change fun state => { state with line := fault.line }
      Run.fail ("Syntax error: ".toList ++ fault.words)
    | .ok ((command, isOver), reader), more =>
      match more, reader.rest with
      | some descriptor, [] => next bound (← script.extend descriptor)
      | _, rest =>
        script.show_ (script.text.take (script.text.length - rest.length))
        Run.change fun state => { state with
          lastLine := reader.line
          documents := reader.documents ++ state.documents
          nextDocument := reader.nextDocument }
        if isOver then return none
        return some ⟨command, { script with text := rest, line := reader.line }⟩

/-- Carries out the rest of a script, given the status of its last command, up to something
that is skipped. -/
def runFrom (evaluate : Evaluator) (flags : Flags) : Nat → Nat → Script → Run Nat
  | 0, status, _ => return status
  | bound + 1, status, script => do
    match ← next roundLimit script with
    | none => return status
    | some line =>
      let ended ← evaluate flags line.command
      let status := if line.command.isSome then ended else status
      if (← Run.state).skip = .nothing then runFrom evaluate flags bound status line.rest
      else return status

/-- Carries out a script, and gives the status of its last command. -/
def run (evaluate : Evaluator) (flags : Flags) (script : Script) : Run Nat :=
  Run.within State.lastLine (fun line state => { state with lastLine := line }) id
    (runFrom evaluate flags roundLimit 0 script)

/-- Carries out a file. What is skipped is no more than its rest. -/
def runFile (evaluate : Evaluator) (script : Script) : Run Nat := do
  let status ← run evaluate .plain script
  Run.change fun state => { state with skip := state.skip.afterFunction }
  return status

end Script

namespace Run

/-- Carries out the commands that are kept for signals, given the status that they must not
change. A command that leaves a function with a status of its own changes it. -/
def answerSignals (evaluate : Evaluator) (status : Nat) : List Nat → Run Unit
  | [] => give ()
  | signal :: rest => do
    let state ← state
    if state.skip ≠ .nothing then
      change fun state => { state with pendingSignals := signal :: rest }
    else
      match state.traps.lookup signal with
      | none => answerSignals evaluate status rest
      | some action =>
        let _ ← (Script.ofText action).run evaluate .plain
        change fun state =>
          if state.skip = .function true then state else { state with status := status }
        answerSignals evaluate status rest

/-- Whether some command is kept for a signal. -/
def awaitsSignals (state : State) : Bool :=
  state.traps.any fun (signal, action) => signal ≠ 0 && !action.isEmpty

/-- Carries out the commands that are kept for the signals that have been noted. -/
def runTraps (evaluate : Evaluator) : Run Unit := do
  let before ← state
  if awaitsSignals before ∨ before.pendingSignals.isEmpty = false then
    let noted ← ask .notedSignals
    let signals := (List.range Signal.limit).filter fun signal =>
      before.pendingSignals.contains signal || noted.contains signal
    if signals.isEmpty = false then
      let status := before.savedStatus.getD before.status
      change fun state => { state with savedStatus := some status, pendingSignals := [] }
      answerSignals evaluate status signals
      change fun state => { state with savedStatus := before.savedStatus }

/-- Forgets what a broken off command has left behind. A status that was kept is the status
of the shell if the shell was asked to end. -/
def reset (isAsked : Bool) (state : State) : State :=
  let isKept := isAsked || state.skip = .function false
  { state with
    status := if isKept then state.savedStatus.getD state.status else state.status
    savedStatus := none
    skip := .nothing
    loopDepth := 0
    isTracing := false }

/-- Ends the shell, after the command that is kept for its end. -/
def endShell (evaluate : Evaluator) : Ending := fun escape => do
  change (reset (escape = .leave))
  let before ← state
  change fun state => { state with savedStatus := some state.status }
  match before.traps.lookup 0 with
  | none => give ()
  | some action =>
    change fun state =>
      { state with traps := state.traps.filter fun (signal, _) => signal ≠ 0 }
    match ← attempt ((Script.ofText action).run evaluate .plain) with
    | .ok _ => change fun state => reset (escape = .leave) { state with skip := .function false }
    | .error inner => change (reset (inner = .leave))
  exit (← state).status

end Run

namespace Interpreter

/-- What is needed to work out words. -/
def worker (interpreter : Interpreter) : Worker :=
  ⟨interpreter, Run.endShell interpreter.evaluate⟩

end Interpreter

end ScriptDesk.Shell

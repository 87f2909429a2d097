import ScriptDesk.Shell.Lookup
import ScriptDesk.Shell.Redirecting
import ScriptDesk.Shell.Script

/-!
# Commands for the flow of control

The commands of the shell that leave loops, functions and the shell itself, and those that
carry out other commands.
-/

namespace ScriptDesk.Shell.Builtin

open Run

/-- Skips the rest of loops, or of one round. -/
def leaveLoops (goesOn : Bool) (arguments : List Text) : Run Nat := do
  let count ← match arguments.head? with
    | some text => do
      let count ← number text
      if count = 0 then fail (Numeral.illegal text)
      pure count
    | none => pure 1
  change fun state =>
    let count := min count state.loopDepth
    if count = 0 then state
    else { state with skip := if goesOn then .round count else .loops count }
  return 0

/-- Skips the rest of a function or a file. -/
def return_ (arguments : List Text) : Run Nat := do
  match arguments.head? with
  | some text =>
    let status ← number text
    change fun state => { state with skip := .function true }
    return status
  | none =>
    change fun state => { state with skip := .function false }
    return (← state).status

def exit_ (arguments : List Text) : Run Nat := do
  match arguments.head? with
  | some text =>
    let status ← number text
    change fun state => { state with savedStatus := some status }
    escape .leave
  | none => escape .leave

/-- Carries out the script that arguments make together. -/
def eval (interpreter : Interpreter) (flags : Flags) (arguments : List Text) : Run Nat :=
  (Script.ofText (Text.joinWith [' '] arguments)).run interpreter.evaluate
    ⟨false, flags.isTested⟩

def scriptDescriptor : Nat := 1000

def readScript (path : Text) : Run Script := do
  match ← ask (.openFile path .read scriptDescriptor) with
  | .error fault =>
    fail ("cannot open ".toList ++ path ++ ": ".toList ++ Redirecting.readingWords fault)
  | .ok () =>
    let text ← lift (Action.readAll scriptDescriptor)
    ask (.close scriptDescriptor)
    return ⟨withoutNul text, 1, none, true⟩

/-- The path of a script that is to be carried out in the shell itself. -/
def scriptPath? (tree : FileTree) (directories name : Text) : Option Text :=
  if name.contains '/' then some name
  else ((Text.pieces ':' directories).map (Search.inListed · name)).find? tree.isFile

def source (interpreter : Interpreter) (arguments : List Text) : Run Nat := do
  let names ← withoutOptions arguments
  match names with
  | [] => return 0
  | name :: _ =>
    match scriptPath? (← ask .look) ((← state).valueOf "PATH") name with
    | none => fail (name ++ ": not found".toList)
    | some path =>
      let script ← readScript path
      change fun state => { state with commandName := some path }
      script.runFile interpreter.evaluate

/-- A program takes the place of the shell. -/
def exec (arguments : List Text) : Run Nat := do
  let words ← withoutOptions arguments
  match words with
  | [] => return 0
  | name :: _ =>
    match ← findProgram none name with
    | .error fault => failToStart name fault
    | .ok path => becomeProgram path words

end ScriptDesk.Shell.Builtin

import ScriptDesk.Shell.Evaluation

/-!
# Starting a shell

What a shell does from its start to its end: it reads its options, and then carries out a
command that it is given, a file, or its input.
-/

namespace ScriptDesk.Shell

namespace Start

open Run

/-- Sets the options of letters, and tells whether a command is given among the arguments. -/
def readLetters (isOn : Bool) : Text → List Text → Run (Bool × List Text)
  | [], arguments => give (false, arguments)
  | letter :: letters, arguments =>
    if letter = 'c' then do
      let (_, rest) ← readLetters isOn letters arguments
      return (true, rest)
    else if letter = 'l' then readLetters isOn letters arguments
    else if letter = 'o' ∧ arguments.isEmpty then do
      let _ ← ask (.write 1 (Builtin.optionTable isOn (← state).undecided))
      readLetters isOn letters []
    else do
      let rest ← Builtin.setLetters isOn [letter] arguments
      readLetters isOn letters rest

/-- Sets options, and tells whether a command is given among the arguments, and which of them
are left. The bound is the number of arguments. -/
def readOptions : Nat → List Text → Run (Bool × List Text)
  | 0, arguments => give (false, arguments)
  | bound + 1, arguments =>
    match arguments with
    | ['-'] :: rest => give (false, rest)
    | ['-', '-'] :: rest => give (false, rest)
    | (sign :: letters) :: rest =>
      if sign ≠ '-' ∧ sign ≠ '+' then give (false, arguments)
      else do
        let (isCommand, rest) ← readLetters (sign = '-') letters rest
        let (others, rest) ← readOptions bound rest
        return (isCommand || others, rest)
    | arguments => give (false, arguments)

def runCommand (interpreter : Interpreter) (command : Text) : Run Unit := do
  let _ ← (Script.ofText command).run interpreter.evaluate .plain

/-- Carries out what is read from the input. -/
def runInput (interpreter : Interpreter) : Run Unit := do
  let _ ← (Script.ofDescriptor 0).runFile interpreter.evaluate

def run (interpreter : Interpreter) (arguments : List Text) : Run Unit := do
  let (isCommand, operands) ← readOptions (arguments.length + 1) arguments
  match isCommand, operands with
  | true, [] => fail "-c requires an argument".toList
  | true, command :: rest =>
    change fun state => { state with name := rest.headD state.name, parameters := rest.drop 1 }
    runCommand interpreter command
    if (← state).has 's' then runInput interpreter
  | false, operands =>
    if operands.isEmpty then change fun state => state.setOption 's' true
    if (← state).has 's' then
      change fun state => { state with parameters := operands }
      runInput interpreter
    else
      let path := operands.headD []
      let script ← Builtin.readScript path
      change fun state => { state with name := path, parameters := operands.drop 1 }
      let _ ← script.runFile interpreter.evaluate

def importVariable (state : State) (variable_ : Text × Text) : State :=
  let (name, value) := variable_
  if isName name = false ∨ ["IFS", "OPTIND", "PPID"].contains (String.ofList name) then state
  else state.assign name value true

/-- The working directory by the name that has been given for it, if it is that. -/
def namedDirectory (tree : FileTree) (given : Option Text) : Text :=
  let physical := FileTree.pathText tree.workingDirectory
  match given with
  | some path =>
    let isSame : Bool :=
      match tree.follow path with
      | .ok absolute => decide (absolute = tree.workingDirectory)
      | .error _ => false
    if path.head? = some '/' ∧ isSame = true then path else physical
  | none => physical

end Start

/-- A shell from its start to its end, given its arguments, the first of which is its name, the
variables that it sees, and the signals that are ignored. -/
def program (arguments : List Text) (environment : List (Text × Text)) (ignored : List Nat) :
    Action Nat := do
  let (process, parent) ← Action.reply .identity
  let tree ← Action.reply .look
  let begun := State.start (arguments.headD []) process parent ignored
  let given := environment.foldl Start.importVariable begun
  let directory := Start.namedDirectory tree (given.value? "PWD".toList)
  let ready := { given.assign "PWD".toList directory true with directory := directory }
  let run : Run Unit := do
    let escape ←
      match ← Run.attempt (Start.run interpreter (arguments.drop 1)) with
      | .ok _ => pure Escape.finish
      | .error escape => pure escape
    interpreter.worker.ending escape
  let (_, ended) ← run ready
  return ended.status

end ScriptDesk.Shell

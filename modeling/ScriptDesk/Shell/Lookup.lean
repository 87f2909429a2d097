import ScriptDesk.Shell.Argument
import ScriptDesk.Shell.Child
import ScriptDesk.Shell.Token
import ScriptDesk.System.Search

/-!
# Looking up commands

What the name of a command stands for: a function, a command of the shell, or a program,
which is searched for in the directories that a variable lists.
-/

namespace ScriptDesk.Shell

/-- What the name of a command stands for. -/
inductive Callee where
  | function (body : Option Command)
  | builtin
  | program

namespace Callee

/-- What a name stands for. Functions may be left out. -/
def of (state : State) (name : Text) (skipsFunctions : Bool) : Callee :=
  if name.contains '/' then .program
  else
    match if skipsFunctions then none else state.functions.lookup name with
    | some body => .function body
    | none => if isBuiltin name then .builtin else .program

end Callee

namespace State

/-- Notes where a program has been found. -/
def noteFound (state : State) (name path : Text) : State :=
  let entry := Found.mk name path false
  if state.found.any fun known => known.name = name then
    { state with
      found := state.found.map fun known => if known.name = name then entry else known }
  else { state with found := state.found ++ [entry] }

/-- Forgets where a program has been found. -/
def forgetFound (state : State) (name : Text) : State :=
  { state with found := state.found.filter fun known => known.name ≠ name }

end State

/-- The words for the fault of a program that cannot be started. -/
def startingWords (fault : Fault) : Text :=
  if fault = .notFound ∨ fault = .notDirectory then "not found".toList else fault.words

/-- The status for the fault of a program that cannot be started. -/
def startingStatus (fault : Fault) : Nat :=
  if [.notFound, .notDirectory, .tooManyLinks, .nameTooLong].contains fault then 127 else 126

namespace Run

open Search

/-- Searches for a program in the directories that a variable lists, and notes where it has
been found. -/
def findProgram (directories : Option Text) (name : Text) : Run (Except Fault Text) := do
  let listed := (← state).valueOf "PATH"
  let tree ← ask .look
  match programPath tree (directories.getD listed) name with
  | .error fault =>
    if directories.isNone then change fun state => state.forgetFound name
    return .error fault
  | .ok path =>
    if directories.isNone ∧ name.contains '/' = false then
      change fun state => state.noteFound name path
    return .ok path

/-- Ends the shell because a program cannot be started. -/
def failToStart (name : Text) (fault : Fault) : Run Nat := do
  complain (name ++ ": ".toList ++ startingWords fault)
  change fun state => { state with status := startingStatus fault }
  escape .finish

/-- A program takes the place of the shell. Its path and its arguments are given, the first of
which is its name. A file that is no program may be a script. -/
def becomeProgram (path : Text) (arguments : List Text) : Run Nat := do
  let name := arguments.headD []
  let environment := (← state).environment
  let fault ← ask (.startProgram path arguments environment)
  if fault = .notExecutable then
    let octets := ((← ask .look).readOctets path).toOption.getD []
    if readsAsScript octets then
      let again ← ask
        (.startProgram fileShell (fileShell :: path :: arguments.drop 1) environment)
      failToStart name again
    else failToStart name fault
  else failToStart name fault

end Run

end ScriptDesk.Shell

import ScriptDesk.Shell.Builtin.Condition
import ScriptDesk.Shell.Builtin.Directory
import ScriptDesk.Shell.Builtin.Flow
import ScriptDesk.Shell.Builtin.Input
import ScriptDesk.Shell.Builtin.Jobs
import ScriptDesk.Shell.Builtin.Limits
import ScriptDesk.Shell.Builtin.Names
import ScriptDesk.Shell.Builtin.Variables
import ScriptDesk.Shell.Format

/-!
# The shell's own commands

The commands that the shell carries out itself, under their names.
-/

namespace ScriptDesk.Shell.Builtin

open Run

/-- Writes texts in a format. Complaints come first. -/
def printf (arguments : List Text) : Run Nat := do
  match ← withoutOptions arguments with
  | [] => fail "usage: printf format [arg ...]".toList
  | format :: values =>
    let made := formatted format values
    forEach made.complaints.reverse complain
    match made.failure with
    | some words =>
      complain words
      let _ ← output made.written.reverse
      change fun state => { state with status := 2 }
      escape .failure
    | none =>
      let status ← output made.written.reverse
      return if made.complaints.isEmpty then status else 1

/-- Works out a condition. -/
def test (words : List Text) : Run Nat := do
  match Condition.evaluate (← ask .look) words with
  | .ok holds => return if holds then 0 else 1
  | .error words => fail words

/-- Works out a condition in brackets. -/
def bracketed (words : List Text) : Run Nat :=
  let isClosed := (words.getLast?.bind List.head?) = some ']'
  if isClosed then test words.dropLast else fail "missing ]".toList

/-- Carries out a command of the shell. -/
def run (interpreter : Interpreter) (flags : Flags) (name : Text) (arguments : List Text) :
    Run Nat :=
  match String.ofList name with
  | "." => source interpreter arguments
  | "[" => bracketed arguments
  | "alias" => alias_ arguments
  | "bg" => moveJob arguments
  | "break" => leaveLoops false arguments
  | "cd" => changeDirectory arguments
  | "chdir" => changeDirectory arguments
  | "command" => command arguments
  | "continue" => leaveLoops true arguments
  | "echo" => output (echoText arguments)
  | "eval" => eval interpreter flags arguments
  | "exec" => exec arguments
  | "exit" => exit_ arguments
  | "export" => mark "export" true false arguments
  | "false" => return 1
  | "fg" => moveJob arguments
  | "getopts" => getopts arguments
  | "hash" => hash arguments
  | "jobs" => jobs arguments
  | "kill" => kill arguments
  | "local" => local_ arguments
  | "printf" => printf arguments
  | "pwd" => printDirectory arguments
  | "read" => read arguments
  | "readonly" => mark "readonly" false true arguments
  | "return" => return_ arguments
  | "set" => set_ arguments
  | "shift" => shift arguments
  | "test" => test arguments
  | "times" => times
  | "trap" => trap arguments
  | "type" => type_ arguments
  | "ulimit" => ulimit arguments
  | "umask" => umask arguments
  | "unalias" => unalias arguments
  | "unset" => unset arguments
  | "wait" => wait arguments
  | _ => return 0

end ScriptDesk.Shell.Builtin

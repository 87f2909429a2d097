import ScriptDesk.Shell.Start
import ScriptDesk.System.Schedule
import ScriptDesk.Tool.Launching
import ScriptDesk.Tool.Relay

/-!
# The programs of the system

All programs under their names.
-/

namespace ScriptDesk.Programs

open Tool

/-- A program that does nothing but end with a status. -/
def ending (status : Nat) : Invocation → Action Nat :=
  fun _ => return status

def shellNames : List String := ["sh", "dash"]

def bodies : List (String × (Invocation → Action Nat)) :=
  [("[", bracketed), ("basename", lastNames), ("cat", cat),
    ("chmod", changeMode), ("cp", copy), ("cut", cut),
    ("dirname", directoryNames), ("echo", echo), ("env", env),
    ("false", ending 1), ("head", head), ("kill", kill), ("ln", link),
    ("ls", list), ("mkdir", makeDirectory), ("mv", move),
    ("nice", startPlainly ['n']), ("nl", numberLines),
    ("nohup", nohup), ("printenv", printVariables), ("printf", printf),
    ("pwd", printDirectory), ("rev", reverseLines), ("rm", remove),
    ("rmdir", removeDirectory), ("seq", sequence),
    ("setsid", startPlainly []), ("sleep", sleep),
    ("sort", sort), ("sync", ending 0), ("tac", lastLinesFirst),
    ("tail", tail), ("tee", tee), ("test", test), ("timeout", timeout),
    ("touch", touch), ("tr", translate), ("true", ending 0),
    ("uniq", unique), ("wc", count), ("xargs", xargs), ("yes", yes)]

def names : List Text :=
  shellNames.map String.toList ++ bodies.map fun (name, _) => name.toList

/-- What the program of a name does, given its arguments, the first of which is its name, the
variables that it sees, and the signals that it ignores from its start on. -/
def run : System.Software := fun name arguments environment ignored =>
  match bodies.lookup (String.ofList name) with
  | some body => body ⟨arguments.headD [], arguments.drop 1, environment⟩
  | none => Shell.program arguments environment ignored

end ScriptDesk.Programs

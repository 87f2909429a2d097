import ScriptDesk.RunState
import ScriptDesk.Text.Blank

/-!
# Messages

What is asked of the desk. A line of input is a command if it begins with a colon and a
line of script text otherwise; a second colon in front makes a line of script text out of
one that begins with a colon.
-/

namespace ScriptDesk

/-- What is asked of the desk. -/
inductive Message where
  /-- Append a line of script text. -/
  | edit (line : Text)
  /-- Run the buffer. -/
  | run
  /-- The run has ended in a state. -/
  | runFinished (state : RunState)
  /-- Clear the buffer and forget the last run. -/
  | reset
  /-- Move the caret to the reported error. -/
  | gotoError
  /-- Print the buffer. -/
  | listing
  /-- Replace the buffer with a file. -/
  | load (path : Text)
  /-- Print the commands. -/
  | help
  /-- Leave. -/
  | quit
  /-- A command that there is not, as it was written. -/
  | unknown (line : Text)
deriving DecidableEq, Repr

namespace Message

/-- The names of each command that stands alone. -/
def commands : List (Message × List Text) :=
  [(.run, ["run".toList, "r".toList]),
   (.reset, ["reset".toList]),
   (.gotoError, ["goto".toList, "g".toList]),
   (.listing, ["show".toList, "s".toList]),
   (.help, ["help".toList, "h".toList, "?".toList]),
   (.quit, ["quit".toList, "q".toList, "exit".toList])]

/-- The names of the command that takes a path. -/
def loadNames : List Text := ["load".toList, "l".toList]

def command? (name : Text) : Option Message :=
  (commands.find? fun (_, names) => names.contains name).map Prod.fst

/-- The message of a command: its name, and what follows the first white space after it.
The line as a whole is kept for the case that there is no such command. -/
def ofCommand (line command : Text) : Message :=
  let name := command.takeWhile fun character => !Text.isBlank character
  let argument := Text.trim ((command.dropWhile fun character => !Text.isBlank character).drop 1)
  if argument.isEmpty then (command? name).getD (.unknown line)
  else if loadNames.contains name then .load argument
  else .unknown line

/-- Whether a character belongs to the end of a line. -/
def isLineEnd (character : Char) : Bool :=
  character = '\r' || character = '\n'

def ofInput (input : Text) : Message :=
  let line := Text.dropTrailing isLineEnd input
  match line with
  | ':' :: ':' :: rest => .edit (':' :: rest)
  | ':' :: command => ofCommand line (Text.trim command)
  | _ => .edit line

/-- The line of input that appends a line of script text. -/
def escaped (line : Text) : Text :=
  match line with
  | ':' :: _ => ':' :: line
  | _ => line

/-- The commands, as they are printed. -/
def helpText : Text :=
  ("Commands:\n" ++
   "  :run            Run the buffer\n" ++
   "  :reset          Clear the buffer and the output\n" ++
   "  :goto           Move the caret to the reported error\n" ++
   "  :show           Print the buffer with line numbers\n" ++
   "  :load <file>    Replace the buffer with a file\n" ++
   "  :help           This help message\n" ++
   "  :quit           Leave\n" ++
   "\n" ++
   "Any other line is appended to the buffer. Start a line with :: to insert a literal ':'.").toList

end Message

end ScriptDesk

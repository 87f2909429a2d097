import ScriptDesk.Shell.Numeral

/-!
# Signals

The names of signals, and the words for a process that a signal has ended.
-/

namespace ScriptDesk.Shell.Signal

def names : List String :=
  ["HUP", "INT", "QUIT", "ILL", "TRAP", "ABRT", "BUS", "FPE", "KILL", "USR1", "SEGV", "USR2",
    "PIPE", "ALRM", "TERM", "16", "CHLD", "CONT", "STOP", "TSTP", "TTIN", "TTOU", "URG",
    "XCPU", "XFSZ", "VTALRM", "PROF", "WINCH", "IO", "PWR", "SYS", "32", "33", "RTMIN",
    "RTMIN+1", "RTMIN+2", "RTMIN+3", "RTMIN+4", "RTMIN+5", "RTMIN+6", "RTMIN+7", "RTMIN+8",
    "RTMIN+9", "RTMIN+10", "RTMIN+11", "RTMIN+12", "RTMIN+13", "RTMIN+14", "RTMIN+15",
    "RTMAX-14", "RTMAX-13", "RTMAX-12", "RTMAX-11", "RTMAX-10", "RTMAX-9", "RTMAX-8",
    "RTMAX-7", "RTMAX-6", "RTMAX-5", "RTMAX-4", "RTMAX-3", "RTMAX-2", "RTMAX-1", "RTMAX"]

/-- One more than the greatest number of a signal. -/
def limit : Nat := 65

def name (signal : Nat) : Text :=
  if signal = 0 then "EXIT".toList else (names.getD (signal - 1) "").toList

/-- A text with small letters in place of capital ones. -/
def lowered (text : Text) : Text :=
  text.map Char.toLower

def ofDigits? (text : Text) : Option Nat :=
  (Numeral.ofDigits? text).filter (· < limit)

/-- The signal of a number or a name. The least number that a name may stand for is given. -/
def ofText? (text : Text) (least : Nat) : Option Nat :=
  if (ofDigits? text).isSome then ofDigits? text
  else
    (List.range limit).find? fun signal =>
      least ≤ signal ∧ lowered (name signal) = lowered text

/-- The words for a process that a signal has ended. -/
def words (signal : Nat) : Text :=
  let known : List String :=
    ["Hangup", "Interrupt", "Quit", "Illegal instruction", "Trace/breakpoint trap", "Aborted",
      "Bus error", "Floating point exception", "Killed", "User defined signal 1",
      "Segmentation fault", "User defined signal 2", "Broken pipe", "Alarm clock",
      "Terminated", "Stack fault", "Child exited", "Continued", "Stopped (signal)",
      "Stopped", "Stopped (tty input)", "Stopped (tty output)", "Urgent I/O condition",
      "CPU time limit exceeded", "File size limit exceeded", "Virtual timer expired",
      "Profiling timer expired", "Window changed", "I/O possible", "Power failure",
      "Bad system call"]
  match known[signal - 1]? with
  | some words => words.toList
  | none =>
    if 34 ≤ signal then "Real-time signal ".toList ++ Text.decimal (signal - 34)
    else "Unknown signal ".toList ++ Text.decimal signal

/-- The words that are shown for a process that a signal has ended. Of some signals nothing
is said. -/
def notice? (signal : Nat) : Option Text :=
  if signal = 2 ∨ signal = 13 then none else some (words signal)

end ScriptDesk.Shell.Signal

/-!
# Exit statuses

How a process ends: by itself with a code, or by a signal.
-/

namespace ScriptDesk

/-- How a process has ended. -/
inductive ExitStatus where
  | exited (code : Int)
  | signalled (signal : Nat)
  /-- Neither an exit code nor a signal is known. -/
  | unknown
deriving DecidableEq, Repr

namespace ExitStatus

def code : ExitStatus → Int
  | .exited code => code
  | .signalled signal => 128 + signal
  | .unknown => -1

end ExitStatus

end ScriptDesk

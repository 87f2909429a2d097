import ScriptDesk.Outcome
import ScriptDesk.System.Process
import ScriptDesk.Text.Quoted

/-!
# Executors

An executor is known by what happens when a script is given to it: it ends with an
outcome, it crashes, or it never ends. It may also have to wait at a gate before it goes
on. What a script does to the system on which it is executed stays.
-/

namespace ScriptDesk

/-- The number that the runtime gives to a task when the task is spawned. -/
abbrev TaskNumber := Nat

/-- What a crash has left: a text, or something that is no text. -/
inductive Crash where
  | saying (text : Text)
  | mute
deriving DecidableEq, Repr

namespace Crash

def message : Crash → Text
  | .saying text => text
  | .mute => "<non-string panic payload>".toList

/-- How a crash ends the task that it happened in, in words. -/
def manner : Crash → Text
  | .saying text => "panicked with message ".toList ++ Text.quoted text
  | .mute => "panicked".toList

end Crash

/-- How the execution of a script ends. -/
inductive Ending where
  | reports (outcome : Outcome)
  | crashes (crash : Crash)
  | never

/-- How an executor treats scripts. -/
structure Executor where
  /-- Whether a script waits at a gate. -/
  gated : Text → Bool
  /-- What executing a script makes of the system, and how it ends. -/
  execute : System → Text → System × Ending

/-- How the execution of a script goes that leaves the system as it is: whether it waits at a
gate, and how it ends. -/
structure Performance where
  gated : Bool
  ending : Ending

/-- The executor that treats each script in a fixed way and leaves the system as it is. -/
def Executor.fixed (perform : Text → Performance) : Executor where
  gated script := (perform script).gated
  execute system script := (system, (perform script).ending)

end ScriptDesk

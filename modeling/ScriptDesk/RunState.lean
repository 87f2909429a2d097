import ScriptDesk.Diagnostic
import ScriptDesk.Outcome

/-!
# States of the desk

Nothing has been run, a run is in flight, or the last run succeeded or failed. A failure
says whether the script is at fault, with the place if it could be read off the output, or
whether the script could not be run.
-/

namespace ScriptDesk

/-- Why a run failed. -/
inductive RunFailure where
  /-- The script ran and ended with a failing exit code. -/
  | script (output : Text) (exitCode : Int) (diagnostic : Option Diagnostic)
  /-- The script could not be run. -/
  | launch (reason : Text)
  /-- The script was stopped after its time limit, in milliseconds. -/
  | timedOut (milliseconds : Nat)
deriving DecidableEq, Repr

namespace RunFailure

/-- The failure in words; for a script that ran, what it has written. -/
def message : RunFailure → Text
  | .script output _ _ => output
  | .launch reason => reason
  | .timedOut milliseconds => timedOutText milliseconds

def exitCode? : RunFailure → Option Int
  | .script _ exitCode _ => some exitCode
  | _ => none

/-- The place of the error in the script, if it is known. -/
def diagnostic? : RunFailure → Option Diagnostic
  | .script _ _ diagnostic => diagnostic
  | _ => none

/-- Whether the script did not run to an end of its own. -/
def isLaunchFailure : RunFailure → Bool
  | .script _ _ _ => false
  | _ => true

/-- The failure for a script that could not be run to its end. -/
def ofLaunchError : LaunchError → RunFailure
  | .timedOut milliseconds => .timedOut milliseconds
  | error => .launch error.message

end RunFailure

/-- What the desk shows of its runs. -/
inductive RunState where
  | idle
  | running
  | succeeded (output : Text) (exitCode : Int)
  | failed (failure : RunFailure)
deriving DecidableEq, Repr

namespace RunState

def isRunning : RunState → Bool
  | .running => true
  | _ => false

def canRun (state : RunState) : Bool :=
  !state.isRunning

def label : RunState → String
  | .idle => "idle"
  | .running => "running"
  | .succeeded _ _ => "succeeded"
  | .failed _ => "failed"

/-- The place of the error that the state reports, if it reports one. -/
def diagnostic? : RunState → Option Diagnostic
  | .failed failure => failure.diagnostic?
  | _ => none

/-- The state that an outcome leads to. A failing script's output is searched for a
diagnostic. -/
def ofOutcome (grammar : Grammar) : Outcome → RunState
  | .ok (.success output exitCode) => .succeeded output exitCode
  | .ok (.failure output exitCode) => .failed (.script output exitCode (grammar output))
  | .error error => .failed (.ofLaunchError error)

theorem isRunning_ofOutcome (grammar : Grammar) (outcome : Outcome) :
    (ofOutcome grammar outcome).isRunning = false := by
  match outcome with
  | .ok (.success _ _) => rfl
  | .ok (.failure _ _) => rfl
  | .error _ => rfl

theorem isRunning_iff (state : RunState) : state.isRunning = true ↔ state = .running := by
  cases state <;> simp [isRunning]

end RunState

end ScriptDesk

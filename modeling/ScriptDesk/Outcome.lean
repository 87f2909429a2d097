import ScriptDesk.Fault

/-!
# Outcomes of a run

A script either ran, and then has output and an exit code, or it could not be run to its
end for one of five causes.
-/

namespace ScriptDesk

/-- What a script that ran has left behind. -/
inductive RunResult where
  | success (output : Text) (exitCode : Int)
  | failure (output : Text) (exitCode : Int)
deriving DecidableEq, Repr

namespace RunResult

/-- Exit code zero means success, every other code failure. -/
def ofExit (output : Text) (exitCode : Int) : RunResult :=
  if exitCode = 0 then .success output exitCode else .failure output exitCode

def output : RunResult → Text
  | .success output _ => output
  | .failure output _ => output

def exitCode : RunResult → Int
  | .success _ exitCode => exitCode
  | .failure _ exitCode => exitCode

def isSuccess : RunResult → Bool
  | .success _ _ => true
  | .failure _ _ => false

end RunResult

/-- A length of time as a number of seconds. -/
def secondsText (milliseconds : Nat) : Text :=
  Text.decimal (milliseconds / 1000) ++ ['s']

/-- The words for a run that was stopped after its time limit, in milliseconds. -/
def timedOutText (milliseconds : Nat) : Text :=
  "script did not finish within ".toList ++ secondsText milliseconds

/-- Why a script could not be run to its end. -/
inductive LaunchError where
  /-- The search for the interpreter found nothing. -/
  | interpreterNotFound (program reason : Text)
  /-- The script could not be written to a file. -/
  | scriptFile (fault : Fault)
  /-- The interpreter could not be started. -/
  | spawn (program : Text) (fault : Fault)
  /-- The interpreter's output or its end could not be observed. -/
  | capture (fault : Fault)
  /-- The time limit, in milliseconds, ran out. -/
  | timedOut (milliseconds : Nat)
deriving DecidableEq, Repr

namespace LaunchError

def quotedProgram (program : Text) : Text :=
  "`".toList ++ program ++ "`".toList

/-- The words for an interpreter that the search does not find. -/
def noBinary : Text := "cannot find binary path".toList

def message : LaunchError → Text
  | .interpreterNotFound program reason =>
    "interpreter ".toList ++ quotedProgram program ++ " not found: ".toList ++ reason
  | .scriptFile fault => "could not write script file: ".toList ++ fault.message
  | .spawn program fault =>
    "could not start ".toList ++ quotedProgram program ++ ": ".toList ++ fault.message
  | .capture fault => "could not read interpreter output: ".toList ++ fault.message
  | .timedOut milliseconds => timedOutText milliseconds

end LaunchError

/-- How an execution ended. -/
abbrev Outcome := Except LaunchError RunResult

theorem RunResult.isSuccess_ofExit (output : Text) (exitCode : Int) :
    (RunResult.ofExit output exitCode).isSuccess = decide (exitCode = 0) := by
  unfold RunResult.ofExit
  split <;> simp_all [RunResult.isSuccess]

theorem RunResult.output_ofExit (output : Text) (exitCode : Int) :
    (RunResult.ofExit output exitCode).output = output := by
  unfold RunResult.ofExit
  split <;> rfl

theorem RunResult.exitCode_ofExit (output : Text) (exitCode : Int) :
    (RunResult.ofExit output exitCode).exitCode = exitCode := by
  unfold RunResult.ofExit
  split <;> rfl

end ScriptDesk

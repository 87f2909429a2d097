import ScriptDesk.Config
import ScriptDesk.Executor
import ScriptDesk.ExitStatus
import ScriptDesk.Launch.Scope
import ScriptDesk.Text.Utf8

/-!
# Launching a script

To execute a script, the interpreter is looked up, the script is written to a file of its
own, and the interpreter is started on that file in a process group of its own, with its
output and its errors going to one pipe. Then its end is waited for, and the pipe is read.

How each of these steps goes is given; a launch is a function of it. The launch answers with
the outcome, unless whoever waits for it goes away, and what it has done to the file and to the
process group is what its scopes have done.
-/

namespace ScriptDesk

namespace Launch

/-- What the launch waits for while the interpreter runs. -/
inductive Wait where
  | exit
  | capture
deriving DecidableEq, Repr

/-- How the steps of a launch go. Something that is waited for may also never come, because
whoever waits for the launch goes away; `overdue` says during which wait the time limit runs
out, if it does and there is one. -/
structure Steps where
  resolve : Except Text Text
  create : Except Fault Unit
  write : Except Fault Unit
  flush : Except Fault Unit
  pipe : Except Fault Unit
  clone : Except Fault Unit
  spawn : Except Fault ProcessId
  exit : Option (Except Fault ExitStatus)
  join : Option (Except Fault Unit)
  read : Except Fault Octets
  overdue : Option Wait

/-- The outcome of a launch, if there is someone to receive it, and what was done. -/
structure Report where
  outcome : Option Outcome
  effects : List Effect

def Report.ending (report : Report) : Ending :=
  match report.outcome with
  | some outcome => .reports outcome
  | none => .never

open Code

/-- Writes the script to a file, which is handed over. -/
def persistScript (steps : Steps) : Code Local :=
  scope do
    attempt .scriptFile steps.create
    perform .fileCreated
    hold .file
    attempt .scriptFile steps.write
    attempt .scriptFile steps.flush
    handOverFile

/-- Starts the interpreter in a group of its own, which is guarded. -/
def startInterpreter (config : Config) (steps : Steps) : Code Unit := do
  attempt .capture steps.pipe
  attempt .capture steps.clone
  let id ← attempt (.spawn config.program) steps.spawn
  let child : Child := ⟨id, false⟩
  perform (.groupStarted id.number)
  hold (.process child)
  hold (.group (.leading child))

/-- Waits for a result no longer than up to the time limit. -/
def awaitInTime {Value : Type} (config : Config) (steps : Steps) (wait : Wait)
    (result? : Option (Except Fault Value)) : Code Value :=
  match config.timeLimit? with
  | some limit =>
    if steps.overdue = some wait then throw (.fails (.timedOut (limit * 1000)))
    else await .capture result?
  | none => await .capture result?

/-- Waits for the end of the process, and then for its output. -/
def awaitRun (config : Config) (steps : Steps) : Code (Octets × ExitStatus) := do
  let status ← awaitInTime config steps .exit steps.exit
  change Local.reap
  awaitInTime config steps .capture steps.join
  let octets ← attempt .capture steps.read
  return (octets, status)

/-- Waits for the run and brings it to its normal end, at which the group is left alone. -/
def completeRun (config : Config) (steps : Steps) : Code RunResult := do
  let (octets, status) ← awaitRun config steps
  change Local.disarm
  dropFile
  pure (.ofExit (Utf8.decodeLossy octets) status.code)

def executeScript (config : Config) (steps : Steps) : Code RunResult :=
  scope do
    let _ ← attempt (.interpreterNotFound config.program) steps.resolve
    hold (← persistScript steps)
    startInterpreter config steps
    completeRun config steps

/-- What is reported of a launch that has come to a result. -/
def Report.ofResult : EStateM.Result Stop World RunResult → Report
  | .ok result world => ⟨some (.ok result), world.effects⟩
  | .error stop world => ⟨stop.outcome, world.effects⟩

/-- Executes a script whose steps go as given. -/
def launch (config : Config) (steps : Steps) : Report :=
  .ofResult ((executeScript config steps).run ⟨[], []⟩)

end Launch

end ScriptDesk

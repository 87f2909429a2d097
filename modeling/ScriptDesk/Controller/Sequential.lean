import ScriptDesk.Controller

/-!
# The controller without tasks

A controller that executes nothing until the end of the run is asked for: it remembers
the script of the run in flight, with the number of its task, and turns it into the state
its execution leads to when someone waits. Each script is treated in a fixed way. There is
no queue and there are no identifiers.
-/

namespace ScriptDesk

/-- What is remembered of a run in flight. -/
structure Sequential.Run where
  script : Text
  number : TaskNumber

/-- The state of the desk, the run in flight, and the pending request. -/
@[ext] structure Sequential where
  grammar : Grammar
  state : RunState
  run : Option Sequential.Run
  pendingRequest : Option Position

namespace Sequential

/-- Nothing has been run. -/
def new (grammar : Grammar) : Sequential :=
  ⟨grammar, .idle, none, none⟩

/-- Remembers a script, unless one is running. -/
def requestRun (desk : Sequential) (script : Text) (number : TaskNumber) : Sequential × Bool :=
  if desk.state.isRunning then (desk, false)
  else
    ({ desk with state := .running, run := some ⟨script, number⟩, pendingRequest := none }, true)

/-- Forgets everything. -/
def requestReset (desk : Sequential) : Sequential :=
  new desk.grammar

/-- Requests the caret at the diagnostic of a failed run. -/
def activateDiagnostic (desk : Sequential) : Sequential × Bool :=
  match desk.state.diagnostic? with
  | some diagnostic => ({ desk with pendingRequest := some diagnostic.position }, true)
  | none => (desk, false)

/-- Hands out the pending request. -/
def takeRequest (desk : Sequential) : Sequential × Option Position :=
  ({ desk with pendingRequest := none }, desk.pendingRequest)

/-- The state that the execution of a script by a task leads to, if it ends. -/
def stateAfter? (grammar : Grammar) (number : TaskNumber) : Ending → Option RunState
  | .reports outcome => some (.ofOutcome grammar outcome)
  | .crashes crash => some (.failed (.launch (RunTask.failure number crash.manner)))
  | .never => none

/-- Waits for the end of the run in flight. Without one, nothing happens; with one that
never ends there is no answer. -/
def nextCompletion? (perform : Text → Performance) (desk : Sequential) : Option Sequential :=
  match desk.run with
  | none => some desk
  | some run =>
    (stateAfter? desk.grammar run.number (perform run.script).ending).map fun state =>
      { desk with state := state, run := none }

end Sequential

end ScriptDesk

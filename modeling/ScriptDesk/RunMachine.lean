import ScriptDesk.RunState

/-!
# The run machine

The machine holds the state of the desk and decides which changes are legal. A run is
known by its identifier; an end that is reported for any other run than the one in flight
changes nothing. A diagnostic of a failed run can be activated, which leaves a request for
the caret that is handed out once.
-/

namespace ScriptDesk

/-- Identifies a run. -/
abbrev RunId := Nat

/-- The state of the desk with what is remembered about its last run. -/
structure RunMachine where
  grammar : Grammar
  state : RunState
  currentRun : Option RunId
  snapshot : Option Text
  pendingRequest : Option Position

namespace RunMachine

def new (grammar : Grammar) : RunMachine :=
  ⟨grammar, .idle, none, none, none⟩

/-- Starts a run of a script, unless one is in flight. Tells whether it was started. -/
def beginRun (machine : RunMachine) (run : RunId) (script : Text) : RunMachine × Bool :=
  if machine.state.isRunning then (machine, false)
  else
    ({ machine with
        state := .running, currentRun := some run, snapshot := some script,
        pendingRequest := none },
      true)

def isInFlight (machine : RunMachine) (run : RunId) : Bool :=
  machine.state.isRunning && machine.currentRun == some run

/-- Ends a run in a given state, if it is the one in flight. Tells whether it was. -/
def finish (machine : RunMachine) (run : RunId) (state : RunState) : RunMachine × Bool :=
  if machine.isInFlight run then ({ machine with state := state, currentRun := none }, true)
  else (machine, false)

def complete (machine : RunMachine) (run : RunId) (outcome : Outcome) : RunMachine × Bool :=
  machine.finish run (.ofOutcome machine.grammar outcome)

/-- Ends a run whose executor went away without an outcome. -/
def abandon (machine : RunMachine) (run : RunId) (reason : Text) : RunMachine × Bool :=
  machine.finish run (.failed (.launch reason))

/-- Forgets the last run, in flight or not. -/
def reset (machine : RunMachine) : RunMachine :=
  new machine.grammar

/-- Requests the caret at the diagnostic of a failed run. Tells whether there is one. -/
def activateDiagnostic (machine : RunMachine) : RunMachine × Bool :=
  match machine.state.diagnostic? with
  | some diagnostic => ({ machine with pendingRequest := some diagnostic.position }, true)
  | none => (machine, false)

/-- Hands out the pending request for the caret, if there is one. -/
def takeRequest (machine : RunMachine) : RunMachine × Option Position :=
  ({ machine with pendingRequest := none }, machine.pendingRequest)

/-- One use of the machine. -/
inductive Operation where
  | beginRun (run : RunId) (script : Text)
  | complete (run : RunId) (outcome : Outcome)
  | abandon (run : RunId) (reason : Text)
  | reset
  | activateDiagnostic
  | takeRequest

/-- What a use of the machine answers. -/
inductive Answer where
  | accepted (yes : Bool)
  | request (position : Option Position)
  | nothing
deriving DecidableEq, Repr

/-- Uses the machine once. -/
def apply (machine : RunMachine) : Operation → RunMachine × Answer
  | .beginRun run script =>
    let (next, accepted) := machine.beginRun run script
    (next, .accepted accepted)
  | .complete run outcome =>
    let (next, accepted) := machine.complete run outcome
    (next, .accepted accepted)
  | .abandon run reason =>
    let (next, accepted) := machine.abandon run reason
    (next, .accepted accepted)
  | .reset => (machine.reset, .nothing)
  | .activateDiagnostic =>
    let (next, accepted) := machine.activateDiagnostic
    (next, .accepted accepted)
  | .takeRequest =>
    let (next, request) := machine.takeRequest
    (next, .request request)

def applyAll (machine : RunMachine) (operations : List Operation) : RunMachine :=
  operations.foldl (fun machine operation => (machine.apply operation).1) machine

theorem beginRun_of_running {machine : RunMachine} (run : RunId) (script : Text)
    (running : machine.state.isRunning = true) :
    machine.beginRun run script = (machine, false) := by
  simp [beginRun, running]

theorem finish_of_not_inFlight {machine : RunMachine} {run : RunId} (state : RunState)
    (other : machine.isInFlight run = false) : machine.finish run state = (machine, false) := by
  simp [finish, other]

end RunMachine

end ScriptDesk

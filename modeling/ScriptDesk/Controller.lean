import ScriptDesk.Executor
import ScriptDesk.RunMachine

/-!
# The controller

The controller owns the run machine and the system on which scripts are executed. Each run
is executed by a task of its own, which sends its outcome to a queue; only the controller
takes outcomes from the queue and tells the machine. Tasks go on by single steps whose order
is not fixed: a schedule is a choice of steps. A task that is aborted may be cancelled before
it begins or later, and may still deliver its outcome.

While a run is in flight, waiting for its end consists of two kinds of step: receiving the
first outcome of the queue, and joining the task in flight once that task has ended.
`poll` takes all steps of waiting that are possible, receiving first. `settle` is one
schedule: every task goes as far as it can.
-/

namespace ScriptDesk

/-- How far a task has come. -/
inductive RunTask.Phase where
  /-- The task has not begun. -/
  | spawned
  /-- The task has begun and stands at the gate of its executor. -/
  | waiting
  /-- The executor is at work, which will end in this way. -/
  | working (ending : Ending)
  /-- The outcome has been sent. -/
  | sent
  /-- The task has ended by itself. -/
  | finished
  /-- The executor crashed, which ended the task. -/
  | crashed (crash : Crash)
  /-- The task was aborted before its end. -/
  | cancelled

/-- A task that executes one run. It has its number since it was spawned. -/
structure RunTask where
  run : RunId
  number : TaskNumber
  script : Text
  phase : RunTask.Phase
  aborted : Bool

/-- A step that a task can take. -/
inductive TaskStep where
  | start
  | proceed
  | send
  | finish
  | crash
  | cancel
deriving DecidableEq, Repr

namespace RunTask

def new (run : RunId) (number : TaskNumber) (script : Text) : RunTask :=
  ⟨run, number, script, .spawned, false⟩

def Phase.isEnd : Phase → Bool
  | .finished => true
  | .crashed _ => true
  | .cancelled => true
  | _ => false

/-- The reason to give up a run whose task failed in a certain manner. -/
def failure (number : TaskNumber) (manner : Text) : Text :=
  "script runner task failed: task ".toList ++ Text.decimal number ++ ' ' :: manner

/-- The reason to give up the run of the task, if it ended without an outcome. -/
def reason? (task : RunTask) : Option Text :=
  match task.phase with
  | .crashed crash => some (failure task.number crash.manner)
  | .cancelled => some (failure task.number "was cancelled".toList)
  | _ => none

/-- The phase after a step, if the task can take it, given how the executor ends that begins
to work on the task's script. -/
def nextPhase? (task : RunTask) (ending : Ending) : TaskStep → Option Phase
  | .start =>
    match task.phase with
    | .spawned => if task.aborted then none else some .waiting
    | _ => none
  | .proceed =>
    match task.phase with
    | .waiting => some (.working ending)
    | _ => none
  | .send =>
    match task.phase with
    | .working (.reports _) => some .sent
    | _ => none
  | .finish =>
    match task.phase with
    | .sent => some .finished
    | _ => none
  | .crash =>
    match task.phase with
    | .working (.crashes crash) => some (.crashed crash)
    | _ => none
  | .cancel => if task.aborted && !task.phase.isEnd then some .cancelled else none

/-- The outcome that a step sends, if the step sends one. -/
def sent? (task : RunTask) : TaskStep → Option Outcome
  | .send =>
    match task.phase with
    | .working (.reports outcome) => some outcome
    | _ => none
  | _ => none

end RunTask

/-- The machine, the outcomes that are under way, the tasks, and the system on which they
execute scripts. -/
structure Controller where
  machine : RunMachine
  queue : List (RunId × Outcome)
  inFlight : Option RunId
  tasks : List RunTask
  nextRun : RunId
  system : System

namespace Controller

/-- A controller that has not run anything on a system. -/
def new (grammar : Grammar) (system : System) : Controller :=
  ⟨.new grammar, [], none, [], 0, system⟩

def state (controller : Controller) : RunState :=
  controller.machine.state

def task? (controller : Controller) (run : RunId) : Option RunTask :=
  controller.tasks.find? fun task => task.run == run

def changeTask (controller : Controller) (run : RunId) (change : RunTask → RunTask) :
    Controller :=
  { controller with
    tasks := controller.tasks.map fun task => if task.run = run then change task else task }

/-- Starts a run of a script in a task with the number that is given to it, unless a run is in
flight. Tells whether it was started. -/
def requestRun (controller : Controller) (script : Text) (number : TaskNumber) :
    Controller × Bool :=
  let run := controller.nextRun
  match controller.machine.beginRun run script with
  | (machine, true) =>
    ({ controller with
        machine := machine, inFlight := some run,
        tasks := controller.tasks ++ [RunTask.new run number script], nextRun := run + 1 },
      true)
  | (_, false) => (controller, false)

/-- Forgets the last run. A run in flight is aborted. -/
def requestReset (controller : Controller) : Controller :=
  let aborted :=
    match controller.inFlight with
    | some run => controller.changeTask run fun task => { task with aborted := true }
    | none => controller
  { aborted with machine := controller.machine.reset, inFlight := none }

/-- Requests the caret at the diagnostic of a failed run. -/
def activateDiagnostic (controller : Controller) : Controller × Bool :=
  let (machine, accepted) := controller.machine.activateDiagnostic
  ({ controller with machine := machine }, accepted)

/-- Hands out the pending request for the caret, if there is one. -/
def takeRequest (controller : Controller) : Controller × Option Position :=
  let (machine, request) := controller.machine.takeRequest
  ({ controller with machine := machine }, request)

/-- Tells the machine an outcome. The task in flight is let go if that ended its run. -/
def deliver (controller : Controller) (run : RunId) (outcome : Outcome) : Controller :=
  match controller.machine.complete run outcome with
  | (machine, true) => { controller with machine := machine, inFlight := none }
  | (_, false) => controller

/-- Takes one step of waiting: receives the first outcome of the queue. -/
def receive? (controller : Controller) : Option Controller :=
  if controller.state.isRunning then
    match controller.queue with
    | [] => none
    | (run, outcome) :: rest => some ({ controller with queue := rest }.deliver run outcome)
  else none

/-- Delivers outcomes in their order, whatever the state. -/
def deliverAll (controller : Controller) : List (RunId × Outcome) → Controller
  | [] => controller
  | (run, outcome) :: rest => (controller.deliver run outcome).deliverAll rest

/-- Gives up the run in flight, after everything in the queue has been delivered. -/
def reap (controller : Controller) (reason : Text) : Controller :=
  let delivered := { controller with queue := [] }.deliverAll controller.queue
  match delivered.machine.currentRun with
  | some run => { delivered with machine := (delivered.machine.abandon run reason).1 }
  | none => delivered

/-- Takes one step of waiting: joins the task in flight, if it has ended. -/
def join? (controller : Controller) : Option Controller :=
  if controller.state.isRunning then do
    let run ← controller.inFlight
    let task ← controller.task? run
    if task.phase.isEnd then
      let released := { controller with inFlight := none }
      match task.reason? with
      | some reason => some (released.reap reason)
      | none => some released
    else none
  else none

/-- What a step of a task makes of the system, and how the executor ends that begins to work
with it. -/
def performed (executor : Executor) (controller : Controller) (task : RunTask) :
    TaskStep → System × Ending
  | .proceed => executor.execute controller.system task.script
  | _ => (controller.system, .never)

/-- Takes one step of a task, if the task can take it. Sending appends to the queue. -/
def taskStep? (executor : Executor) (controller : Controller) (run : RunId)
    (step : TaskStep) : Option Controller := do
  let task ← controller.task? run
  let (system, ending) := controller.performed executor task step
  let phase ← task.nextPhase? ending step
  let moved := controller.changeTask run fun task => { task with phase := phase }
  let queue := moved.queue ++ (task.sent? step).toList.map fun outcome => (run, outcome)
  return { moved with queue := queue, system := system }

/-- A step that can happen while the controller is not being used: one of a task, or one
of waiting for the end of the run in flight. -/
inductive Move where
  | task (run : RunId) (step : TaskStep)
  | receive
  | join
deriving DecidableEq, Repr

/-- Makes a move, if it is possible. -/
def move? (executor : Executor) (controller : Controller) : Move → Option Controller
  | .task run step => controller.taskStep? executor run step
  | .receive => controller.receive?
  | .join => controller.join?

/-- Receives outcomes as long as a run is in flight. -/
def receiveFrom (controller : Controller) : List (RunId × Outcome) → Controller
  | [] => { controller with queue := [] }
  | (run, outcome) :: rest =>
    if controller.state.isRunning then (controller.deliver run outcome).receiveFrom rest
    else { controller with queue := (run, outcome) :: rest }

/-- Takes every step of waiting that is possible, receiving first. -/
def poll (controller : Controller) : Controller :=
  let received := controller.receiveFrom controller.queue
  match received.join? with
  | some joined => joined.receiveFrom joined.queue
  | none => received

/-- Takes a step of a task if that is possible. -/
def tryStep (executor : Executor) (run : RunId) (step : TaskStep)
    (controller : Controller) : Controller :=
  (controller.taskStep? executor run step).getD controller

/-- Lets a task through the gate, which takes a permit if the script is gated. -/
def passGate (executor : Executor) (run : RunId) (permits : Nat) (controller : Controller) :
    Controller × Nat :=
  match controller.task? run with
  | some ⟨_, _, script, .waiting, _⟩ =>
    match executor.gated script, permits with
    | true, 0 => (controller, 0)
    | true, remaining + 1 => (controller.tryStep executor run .proceed, remaining)
    | false, _ => (controller.tryStep executor run .proceed, permits)
  | _ => (controller, permits)

/-- Lets one task go as far as it can. An aborted task is cancelled. -/
def settleTask (executor : Executor) (run : RunId) (permits : Nat)
    (controller : Controller) : Controller × Nat :=
  let begun := (controller.tryStep executor run .cancel).tryStep executor run .start
  let (passed, remaining) := begun.passGate executor run permits
  let ended := (passed.tryStep executor run .send).tryStep executor run .finish
  (ended.tryStep executor run .crash, remaining)

/-- Lets every task go as far as it can, in the order in which they were spawned. -/
def settle (executor : Executor) (permits : Nat) (controller : Controller) :
    Controller × Nat :=
  controller.tasks.foldl
    (fun (settled, remaining) task => settled.settleTask executor task.run remaining)
    (controller, permits)

/-- Waits for the run in flight under this schedule. The run is over if the state is then
no longer running. -/
def await (executor : Executor) (permits : Nat) (controller : Controller) :
    Controller × Nat :=
  if controller.state.isRunning then
    let (settled, remaining) := controller.settle executor permits
    (settled.poll, remaining)
  else (controller, permits)

end Controller

end ScriptDesk

import ScriptDesk.Controller.Sequential
import ScriptDesk.Proofs.Controller.Faithful

/-!
# Simulation by the controller without tasks

`sequential` is what remains of a controller without its queue and its tasks.
Requests commute with it.  Steps of tasks do not change it, and neither does the
reception of the outcome of another run.  The steps that end the run in flight
make of it what waiting makes of the controller without tasks.

While someone waits, the run may have ended already and the call not yet have
returned.  `Matches` allows for this.
-/

namespace ScriptDesk

namespace Sequential

def serve (desk : Sequential) : Controller.Request → Sequential × Controller.Reply
  | .requestRun script number =>
    let (next, accepted) := desk.requestRun script number
    (next, .accepted accepted)
  | .requestReset => (desk.requestReset, .nothing)
  | .activateDiagnostic =>
    let (next, accepted) := desk.activateDiagnostic
    (next, .accepted accepted)
  | .takeRequest =>
    let (next, position) := desk.takeRequest
    (next, .position position)

def answer? (perform : Text → Performance) (desk : Sequential) :
    Controller.Call → Option (Sequential × Controller.Observation)
  | .request request =>
    let (next, reply) := desk.serve request
    some (next, ⟨.request request, reply, next.state⟩)
  | .nextCompletion =>
    (desk.nextCompletion? perform).map fun next =>
      (next, ⟨.nextCompletion, .ended next.state, next.state⟩)

/-- Answers a row of calls, if all of them have answers. -/
def replay? (perform : Text → Performance) (desk : Sequential) :
    List Controller.Call → Option (Sequential × List Controller.Observation)
  | [] => some (desk, [])
  | call :: calls => do
    let (next, seen) ← desk.answer? perform call
    let (last, history) ← next.replay? perform calls
    return (last, seen :: history)

variable {perform : Text → Performance} {desk next last : Sequential}

theorem replay?_cons_eq_some_iff {call : Controller.Call}
    {calls : List Controller.Call} {history : List Controller.Observation} :
    desk.replay? perform (call :: calls) = some (last, history) ↔
      ∃ next seen later, desk.answer? perform call = some (next, seen) ∧
        next.replay? perform calls = some (last, later) ∧ history = seen :: later := by
  simp only [replay?, Option.bind_eq_bind, Option.bind_eq_some_iff, Option.pure_def,
    Option.some.injEq, Prod.mk.injEq, Prod.exists]
  constructor
  · rintro ⟨next, seen, answered, last, later, replayed, rfl, rfl⟩
    exact ⟨next, seen, later, answered, replayed, rfl⟩
  · rintro ⟨next, seen, later, answered, replayed, rfl⟩
    exact ⟨next, seen, answered, last, later, replayed, rfl, rfl⟩

theorem replay?_append {calls more : List Controller.Call}
    {earlier later : List Controller.Observation}
    (first : desk.replay? perform calls = some (next, earlier))
    (second : next.replay? perform more = some (last, later)) :
    desk.replay? perform (calls ++ more) = some (last, earlier ++ later) := by
  induction calls generalizing desk earlier with
  | nil =>
      cases first
      exact second
  | cons call calls induction =>
      obtain ⟨middle, seen, rest, answered, replayed, rfl⟩ :=
        replay?_cons_eq_some_iff.mp first
      exact replay?_cons_eq_some_iff.mpr
        ⟨middle, seen, rest ++ later, answered, induction replayed, rfl⟩

theorem replay?_of_answer? {call : Controller.Call} {seen : Controller.Observation}
    (answered : desk.answer? perform call = some (next, seen)) :
    desk.replay? perform [call] = some (next, [seen]) :=
  replay?_cons_eq_some_iff.mpr ⟨next, seen, [], answered, rfl, rfl⟩

end Sequential

namespace Controller

/-- The controller without its queue and its tasks.  What the task of a run was given matters
only until the run has ended. -/
def sequential (controller : Controller) : Sequential where
  grammar := controller.machine.grammar
  state := controller.state
  run :=
    if controller.state.isRunning then
      (controller.machine.currentRun.bind controller.task?).map fun task =>
        ⟨task.script, task.number⟩
    else none
  pendingRequest := controller.machine.pendingRequest

variable {grammar : Grammar} {executor : Executor} {perform : Text → Performance}
variable {controller next : Controller} {move : Move}

theorem sequential_new (grammar : Grammar) (system : System) :
    (Controller.new grammar system).sequential = Sequential.new grammar :=
  rfl

theorem Executes.sequential_run {task : RunTask} (executes : controller.Executes task)
    (coherent : Coherent grammar controller) :
    controller.sequential.run = some ⟨task.script, task.number⟩ := by
  simp [sequential, coherent.isRunning_of_executes executes, executes.current,
    coherent.distinct.task?_eq_some executes.member]

theorem sequential_requestReset (coherent : Coherent grammar controller) :
    controller.requestReset.sequential = Sequential.new grammar := by
  rw [requestReset_eq, ← coherent.machine.grammar_eq]
  rfl

theorem sequential_requestRun (coherent : Coherent grammar controller) (script : Text)
    (number : TaskNumber) (idle : controller.state.isRunning = false) :
    (controller.requestRun script number).1.sequential =
      { controller.sequential with
        state := .running, run := some ⟨script, number⟩, pendingRequest := none } := by
  have requested := coherent.requestRun script number
  rw [requestRun_of_idle script number idle] at requested ⊢
  obtain ⟨task, executes⟩ := requested.running rfl
  have added : task = RunTask.new controller.nextRun number script :=
    (requested.eq_of_executes executes (List.mem_append_right _ List.mem_cons_self)
      (Option.some.inj executes.current)).symm
  have remembered := executes.sequential_run requested
  rw [added] at remembered
  exact Sequential.ext rfl rfl remembered rfl

/-- A request gets the same reply from both controllers, and leaves them related. -/
theorem sequential_serve (coherent : Coherent grammar controller) (request : Request) :
    controller.sequential.serve request =
      ((controller.serve request).1.sequential, (controller.serve request).2) := by
  cases request with
  | requestRun script number =>
      cases running : controller.state.isRunning with
      | true =>
          have same : controller.sequential.state.isRunning = true := running
          simp only [serve, requestRun_of_running script number running, Sequential.serve,
            Sequential.requestRun, same, if_true]
      | false =>
          have same : controller.sequential.state.isRunning = false := running
          have next := sequential_requestRun coherent script number running
          rw [requestRun_of_idle script number running] at next
          simp only [serve, requestRun_of_idle script number running, Sequential.serve,
            Sequential.requestRun, same, next]
          rfl
  | requestReset =>
      simp only [serve, requestReset_eq]
      rfl
  | activateDiagnostic =>
      have same : controller.sequential.state = controller.machine.state := rfl
      simp only [serve, activateDiagnostic, RunMachine.activateDiagnostic,
        Sequential.serve, Sequential.activateDiagnostic, same]
      cases controller.machine.state.diagnostic? <;> rfl
  | takeRequest => rfl

theorem nextCompletion?_of_stopped (stopped : controller.state.isRunning = false) :
    controller.sequential.nextCompletion? perform = some controller.sequential := by
  simp [Sequential.nextCompletion?, sequential, stopped]

/-- The end of the run in flight, seen from the controller without tasks. -/
theorem Executes.nextCompletion? {task : RunTask} (executes : controller.Executes task)
    (coherent : Coherent grammar controller) {state : RunState}
    (follows : Sequential.stateAfter? controller.machine.grammar
      task.number (perform task.script).ending = some state)
    (stopped : state.isRunning = false)
    (rest : List (RunId × Outcome)) :
    controller.sequential.nextCompletion? perform =
      some ({ controller with
        machine := controller.machine.ended state
        queue := rest
        inFlight := none } : Controller).sequential := by
  have answered : Sequential.stateAfter? controller.sequential.grammar task.number
      (perform task.script).ending = some state := follows
  simp only [Sequential.nextCompletion?, executes.sequential_run coherent, answered,
    Option.map_some]
  simp [sequential, Controller.state, RunMachine.ended, stopped]

theorem sequential_advanced (coherent : Coherent grammar controller) {task : RunTask}
    {step : TaskStep} {phase : RunTask.Phase} (member : task ∈ controller.tasks)
    (advances : RunTask.Advances task
      (controller.performed executor task step).2 step phase) :
    (controller.advanced executor task step phase).sequential = controller.sequential := by
  have advanced := coherent.advance member advances
  have sameRun : (controller.advanced executor task step phase).sequential.run =
      controller.sequential.run := by
    cases running : controller.state.isRunning with
    | false =>
        have stopped : (controller.advanced executor task step phase).state.isRunning = false :=
          running
        simp [sequential, running, stopped]
    | true =>
        obtain ⟨current, executes⟩ := coherent.running running
        rw [executes.sequential_run coherent]
        by_cases same : current.run = task.run
        · have currentEq := coherent.distinct.eq_of_run executes.member member same
          subst currentEq
          exact (executes.advance_self coherent.distinct advances).sequential_run advanced
        · exact (executes.advance_other executor step phase coherent.distinct member
            same).sequential_run advanced
  exact Sequential.ext rfl rfl sameRun rfl

/-- A move is not seen from the controller without tasks, or it ends the run. -/
theorem sequential_moves (coherent : Coherent grammar controller)
    (faithful : Faithful perform controller)
    (moves : Moves executor controller move next) :
    next.sequential = controller.sequential ∨
      next.state.isRunning = false ∧
        controller.sequential.nextCompletion? perform = some next.sequential := by
  cases moves with
  | advance member advances => exact .inl (sequential_advanced coherent member advances)
  | drop => exact .inl rfl
  | release => exact .inl rfl
  | @complete task outcome rest executes queue =>
      right
      have queued : (task.run, outcome) ∈ controller.queue := by
        rw [queue]
        exact List.mem_cons_self
      have reports := faithful.queued task executes.member outcome queued
      have stopped := RunState.isRunning_ofOutcome controller.machine.grammar outcome
      refine ⟨stopped, executes.nextCompletion? coherent ?_ stopped rest⟩
      rw [reports]
      rfl
  | @abandon task crash executes held crashed =>
      right
      have crashes := faithful.crashed task executes.member crash crashed
      refine ⟨rfl, executes.nextCompletion? coherent ?_ rfl []⟩
      rw [crashes]
      rfl

theorem sequential_task {run : RunId} {step : TaskStep}
    (coherent : Coherent grammar controller)
    (moved : controller.move? executor (.task run step) = some next) :
    next.sequential = controller.sequential := by
  cases coherent.move?_eq_some_iff.mp moved with
  | advance member advances => exact sequential_advanced coherent member advances

namespace Usage

/-- The controller in use is in step with the one without tasks, except that the run may
have ended while someone waits for it. -/
def Matches (perform : Text → Performance) (desk : Sequential) (usage : Usage) : Prop :=
  usage.controller.sequential = desk ∨
    usage.waiting = true ∧ usage.controller.state.isRunning = false ∧
      desk.nextCompletion? perform = some usage.controller.sequential

variable {usage next last : Usage} {desk : Sequential}

/-- Nothing more happens to the state once the run has ended, until the call returns. -/
theorem Matches.of_stopped {later : Controller}
    (matched : Matches perform desk ⟨controller, true⟩)
    (stopped : controller.state.isRunning = false)
    (same : later.sequential = controller.sequential) :
    Matches perform desk ⟨later, true⟩ := by
  have state : later.state = controller.state := congrArg Sequential.state same
  rcases matched with related | ⟨_, _, completed⟩
  · exact .inl (same.trans related)
  · refine .inr ⟨rfl, ?_, ?_⟩
    · rw [state]
      exact stopped
    · rw [same]
      exact completed

/-- What waiting makes of the controller without tasks is what it has come to already, if
no run is in flight. -/
theorem Matches.nextCompletion? (matched : Matches perform desk ⟨controller, true⟩)
    (stopped : controller.state.isRunning = false) :
    desk.nextCompletion? perform = some controller.sequential := by
  rcases matched with related | ⟨_, _, completed⟩
  · rw [← related]
    exact nextCompletion?_of_stopped stopped
  · exact completed

/-- One step of a usage: the call that returns by it, if one does, is answered alike. -/
theorem Matches.step (matched : Matches perform desk usage)
    (coherent : Coherent grammar usage.controller)
    (faithful : Faithful perform usage.controller)
    {seen : Option Observation} (step : Usage.Step executor usage seen next) :
    ∃ later, desk.replay? perform (seen.toList.map Observation.call) =
        some (later, seen.toList) ∧
      Matches perform later next := by
  cases step with
  | serve controller request =>
      rcases matched with related | ⟨waiting, _⟩
      · refine ⟨_, Sequential.replay?_of_answer? ?_, .inl rfl⟩
        rw [← related]
        simp only [Sequential.answer?, sequential_serve coherent]
        rfl
      · cases waiting
  | wait controller =>
      rcases matched with related | ⟨waiting, _⟩
      · exact ⟨desk, rfl, .inl related⟩
      · cases waiting
  | @giveUp controller running =>
      rcases matched with related | ⟨_, stopped, _⟩
      · exact ⟨desk, rfl, .inl related⟩
      · rw [running] at stopped
        cases stopped
  | task moved =>
      have same := sequential_task coherent moved
      refine ⟨desk, rfl, ?_⟩
      rcases matched with related | ⟨waiting, stopped, completed⟩
      · exact .inl (same.trans related)
      · cases waiting
        exact Matches.of_stopped (.inr ⟨rfl, stopped, completed⟩) stopped same
  | @poll controller next move moved =>
      have moves := coherent.move?_eq_some_iff.mp moved
      refine ⟨desk, rfl, ?_⟩
      rcases matched with related | ⟨_, stopped, completed⟩
      · rw [← related]
        rcases sequential_moves coherent faithful moves with same | ended
        · exact .inl same
        · exact .inr ⟨rfl, ended⟩
      · have same : next.sequential = controller.sequential := by
          rcases sequential_moves coherent faithful moves with same | ⟨_, ended⟩
          · exact same
          · rw [nextCompletion?_of_stopped stopped] at ended
            exact (Option.some.inj ended).symm
        exact Matches.of_stopped (.inr ⟨rfl, stopped, completed⟩) stopped same
  | @nextCompletion controller stopped =>
      refine ⟨_, Sequential.replay?_of_answer? ?_, .inl rfl⟩
      simp only [Sequential.answer?, matched.nextCompletion? stopped]
      rfl

theorem Matches.follows (matched : Matches perform desk usage)
    (coherent : Coherent grammar usage.controller)
    (faithful : Faithful perform usage.controller) (yields : executor.Yields perform)
    {history : List Observation} (followed : Follows executor usage history last) :
    ∃ later, desk.replay? perform (history.map Observation.call) =
        some (later, history) ∧
      Matches perform later last := by
  induction followed generalizing desk with
  | refl => exact ⟨desk, rfl, matched⟩
  | step first _ induction =>
      obtain ⟨middle, answered, matchedNext⟩ := matched.step coherent faithful first
      obtain ⟨later, replayed, matchedLast⟩ := induction matchedNext
        (coherent.step first) (faithful.step coherent yields first)
      refine ⟨later, ?_, matchedLast⟩
      rw [List.map_append]
      exact Sequential.replay?_append answered replayed

end Usage

end Controller

end ScriptDesk

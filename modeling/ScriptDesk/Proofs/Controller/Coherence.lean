import ScriptDesk.Proofs.Controller.Tasks

/-!
# Coherence of the controller

The machine, the queue, the tasks and the handle of the task in flight are
changed at different times.  `Coherent` ties them together: a running machine
has a task that executes its run, and either the controller still holds that
task or the outcome of the task is in the queue.

`Moves` lists what the steps of tasks and of waiting can do to a coherent
controller.  Later results case on it instead of unfolding those steps.
-/

namespace ScriptDesk

namespace Controller

/-- The task executes the run in flight. -/
structure Executes (controller : Controller) (task : RunTask) : Prop where
  member : task ∈ controller.tasks
  current : controller.machine.currentRun = some task.run
  snapshot : controller.machine.snapshot = some task.script
  live : task.aborted = false
  /-- What the task has sent is still to be received. -/
  queued : task.phase.hasSent = true →
    ∃ outcome, (task.run, outcome) ∈ controller.queue
  /-- The task is held until it has ended by itself. -/
  held : controller.inFlight = some task.run ∨
    controller.inFlight = none ∧ task.phase = .finished

/-- The parts of a controller are in step. -/
structure Coherent (grammar : Grammar) (controller : Controller) : Prop where
  machine : RunMachine.Consistent grammar controller.machine
  distinct : controller.DistinctRuns
  below : ∀ task ∈ controller.tasks, task.run < controller.nextRun
  cancelled : ∀ task ∈ controller.tasks,
    task.phase = .cancelled → task.aborted = true
  /-- A task that was not aborted is held as long as it is pending. -/
  pending : ∀ task ∈ controller.tasks, task.aborted = false →
    task.phase.isPending = true → controller.inFlight = some task.run
  /-- Every outcome in the queue was sent by a task. -/
  sender : ∀ message ∈ controller.queue, ∃ task ∈ controller.tasks,
    task.run = message.1 ∧ task.phase.mayHaveSent = true
  idle : controller.state.isRunning = false → controller.inFlight = none
  running : controller.state.isRunning = true →
    ∃ task, controller.Executes task

/-- What a step of a task or of waiting makes of a coherent controller. -/
inductive Moves (executor : Executor) (controller : Controller) :
    Move → Controller → Prop where
  /-- A task enters a phase. -/
  | advance {task : RunTask} {step : TaskStep} {phase : RunTask.Phase}
      (member : task ∈ controller.tasks)
      (advances : RunTask.Advances task
        (controller.performed executor task step).2 step phase) :
      Moves executor controller (.task task.run step)
        (controller.advanced executor task step phase)
  /-- The outcome of a run that is no longer in flight is dropped. -/
  | drop {task : RunTask} {run : RunId} {outcome : Outcome}
      {rest : List (RunId × Outcome)}
      (executes : controller.Executes task)
      (queue : controller.queue = (run, outcome) :: rest)
      (other : run ≠ task.run) :
      Moves executor controller .receive { controller with queue := rest }
  /-- The outcome of the run in flight arrives. -/
  | complete {task : RunTask} {outcome : Outcome}
      {rest : List (RunId × Outcome)}
      (executes : controller.Executes task)
      (queue : controller.queue = (task.run, outcome) :: rest) :
      Moves executor controller .receive
        { controller with
          machine := controller.machine.ended
            (.ofOutcome controller.machine.grammar outcome)
          queue := rest
          inFlight := none }
  /-- The task in flight has ended by itself and is let go. -/
  | release {task : RunTask} (executes : controller.Executes task)
      (held : controller.inFlight = some task.run)
      (finished : task.phase = .finished) :
      Moves executor controller .join { controller with inFlight := none }
  /-- The task in flight has crashed, and its run is given up. -/
  | abandon {task : RunTask} {crash : Crash}
      (executes : controller.Executes task)
      (held : controller.inFlight = some task.run)
      (crashed : task.phase = .crashed crash) :
      Moves executor controller .join
        { controller with
          machine := controller.machine.ended
            (.failed (.launch (RunTask.failure task.number crash.manner)))
          queue := []
          inFlight := none }

namespace Coherent

variable {grammar : Grammar} {controller : Controller}

theorem new (grammar : Grammar) (system : System) :
    Coherent grammar (Controller.new grammar system) where
  machine := RunMachine.Consistent.new grammar
  distinct := List.nodup_nil
  below := by simp [Controller.new]
  cancelled := by simp [Controller.new]
  pending := by simp [Controller.new]
  sender := by simp [Controller.new]
  idle := fun _ => rfl
  running := by simp [Controller.new, Controller.state, RunMachine.new, RunState.isRunning]

theorem running_of_executes (coherent : Coherent grammar controller)
    {task : RunTask} (executes : controller.Executes task) :
    controller.machine.state = .running := by
  rw [coherent.machine.running_iff, executes.current]
  rfl

theorem isRunning_of_executes (coherent : Coherent grammar controller)
    {task : RunTask} (executes : controller.Executes task) :
    controller.state.isRunning = true :=
  (RunState.isRunning_iff _).mpr (coherent.running_of_executes executes)

theorem eq_of_executes (coherent : Coherent grammar controller)
    {task other : RunTask} (executes : controller.Executes task)
    (member : other ∈ controller.tasks) (same : other.run = task.run) :
    other = task :=
  coherent.distinct.eq_of_run member executes.member same

theorem executes_of_inFlight (coherent : Coherent grammar controller)
    {run : RunId} (held : controller.inFlight = some run) :
    ∃ task, controller.Executes task ∧ task.run = run := by
  have running : controller.state.isRunning = true := by
    by_contra stopped
    have released := coherent.idle (by simpa using stopped)
    rw [held] at released
    cases released
  obtain ⟨task, executes⟩ := coherent.running running
  refine ⟨task, executes, ?_⟩
  rcases executes.held with current | ⟨released, _⟩
  · rw [held] at current
    cases current
    rfl
  · rw [held] at released
    cases released

/-- A pending task that was not aborted executes the run in flight. -/
theorem executes_of_pending (coherent : Coherent grammar controller)
    {task : RunTask} (member : task ∈ controller.tasks)
    (live : task.aborted = false) (pending : task.phase.isPending = true) :
    controller.Executes task := by
  have held := coherent.pending task member live pending
  obtain ⟨current, executes, sameRun⟩ := coherent.executes_of_inFlight held
  rw [coherent.eq_of_executes executes member sameRun.symm]
  exact executes

/-- The task whose outcome is in the queue is not pending. -/
theorem sent_of_queued (coherent : Coherent grammar controller)
    {task : RunTask} (member : task ∈ controller.tasks) {outcome : Outcome}
    (queued : (task.run, outcome) ∈ controller.queue) :
    task.phase.mayHaveSent = true := by
  obtain ⟨sender, senderMember, sameRun, sent⟩ := coherent.sender _ queued
  rw [← coherent.distinct.eq_of_run senderMember member sameRun]
  exact sent

/-- No outcome is in the queue for a task that has crashed. -/
theorem not_queued_of_crashed (coherent : Coherent grammar controller)
    {task : RunTask} (member : task ∈ controller.tasks) {crash : Crash}
    (crashed : task.phase = .crashed crash) :
    ∀ message ∈ controller.queue, message.1 ≠ task.run := by
  rintro ⟨run, outcome⟩ queued rfl
  have sent := coherent.sent_of_queued member queued
  rw [crashed] at sent
  cases sent

/-- The task in flight is not cancelled, since nobody has aborted it. -/
theorem not_cancelled (coherent : Coherent grammar controller)
    {task : RunTask} (executes : controller.Executes task) :
    task.phase ≠ .cancelled := by
  intro cancelled
  have aborted := coherent.cancelled task executes.member cancelled
  rw [executes.live] at aborted
  cases aborted

theorem deliver_current (coherent : Coherent grammar controller)
    {task : RunTask} (executes : controller.Executes task)
    (rest : List (RunId × Outcome)) (outcome : Outcome) :
    ({ controller with queue := rest } : Controller).deliver task.run outcome =
      { controller with
        machine := controller.machine.ended
          (.ofOutcome controller.machine.grammar outcome)
        queue := rest
        inFlight := none } :=
  deliver_of_current outcome (coherent.running_of_executes executes)
    executes.current

theorem deliver_other {task : RunTask} (executes : controller.Executes task)
    (rest : List (RunId × Outcome)) {run : RunId} (outcome : Outcome)
    (other : run ≠ task.run) :
    ({ controller with queue := rest } : Controller).deliver run outcome =
      { controller with queue := rest } := by
  apply deliver_of_other
  change controller.machine.currentRun ≠ some run
  rw [executes.current]
  simpa using Ne.symm other

theorem reap_crashed (coherent : Coherent grammar controller)
    {task : RunTask} (executes : controller.Executes task)
    {crash : Crash} (crashed : task.phase = .crashed crash) (reason : Text) :
    ({ controller with inFlight := none } : Controller).reap reason =
      { controller with
        machine := controller.machine.ended (.failed (.launch reason))
        queue := []
        inFlight := none } :=
  reap_of_others reason (coherent.running_of_executes executes)
    executes.current (coherent.not_queued_of_crashed executes.member crashed)

theorem moves_of_receive? (coherent : Coherent grammar controller)
    (executor : Executor) {next : Controller}
    (received : controller.receive? = some next) :
    Moves executor controller .receive next := by
  unfold receive? at received
  split at received
  case isFalse => cases received
  case isTrue running =>
    obtain ⟨task, executes⟩ := coherent.running running
    split at received
    case h_1 => cases received
    case h_2 run outcome rest queue =>
      cases received
      by_cases same : run = task.run
      · subst run
        rw [coherent.deliver_current executes rest outcome]
        exact .complete executes queue
      · rw [deliver_other executes rest outcome same]
        exact .drop executes queue same

theorem moves_of_join? (coherent : Coherent grammar controller)
    (executor : Executor) {next : Controller}
    (joined : controller.join? = some next) :
    Moves executor controller .join next := by
  unfold join? at joined
  split at joined
  case isFalse => cases joined
  case isTrue running =>
    simp only [Option.bind_eq_bind, Option.bind_eq_some_iff] at joined
    obtain ⟨run, held, task, found, joined⟩ := joined
    obtain ⟨member, sameRun⟩ := mem_of_task? found
    obtain ⟨current, executes, currentRun⟩ := coherent.executes_of_inFlight held
    have same : task = current :=
      coherent.eq_of_executes executes member (sameRun.trans currentRun.symm)
    subst same
    subst sameRun
    split at joined
    case isFalse => cases joined
    case isTrue ended =>
      cases phase : task.phase with
      | finished =>
          simp only [RunTask.reason?, phase, Option.some.injEq] at joined
          subst joined
          exact .release executes held phase
      | crashed crash =>
          simp only [RunTask.reason?, phase, Option.some.injEq] at joined
          subst joined
          rw [coherent.reap_crashed executes phase]
          exact .abandon executes held phase
      | cancelled => exact (coherent.not_cancelled executes phase).elim
      | spawned => simp [phase, RunTask.Phase.isEnd] at ended
      | waiting => simp [phase, RunTask.Phase.isEnd] at ended
      | working ending => simp [phase, RunTask.Phase.isEnd] at ended
      | sent => simp [phase, RunTask.Phase.isEnd] at ended

/-- The moves of a coherent controller are those that `Moves` lists. -/
theorem move?_eq_some_iff (coherent : Coherent grammar controller)
    {executor : Executor} {move : Move} {next : Controller} :
    controller.move? executor move = some next ↔
      Moves executor controller move next := by
  constructor
  · intro moved
    cases move with
    | task run step =>
        obtain ⟨task, phase, found, advances, rfl⟩ :=
          taskStep?_eq_some_iff.mp moved
        obtain ⟨member, rfl⟩ := mem_of_task? found
        exact .advance member advances
    | receive => exact coherent.moves_of_receive? executor moved
    | join => exact coherent.moves_of_join? executor moved
  · intro moves
    cases moves with
    | @advance task step phase member advances =>
        exact taskStep?_eq_some_iff.mpr
          ⟨task, phase, coherent.distinct.task?_eq_some member, advances, rfl⟩
    | @drop task run outcome rest executes queue other =>
        have running := coherent.isRunning_of_executes executes
        simp only [move?, receive?, running, queue, if_true]
        rw [deliver_other executes rest outcome other]
    | @complete task outcome rest executes queue =>
        have running := coherent.isRunning_of_executes executes
        simp only [move?, receive?, running, queue, if_true]
        rw [coherent.deliver_current executes rest outcome]
    | @release task executes held finished =>
        have running := coherent.isRunning_of_executes executes
        have found := coherent.distinct.task?_eq_some executes.member
        simp [move?, join?, running, held, found, finished,
          RunTask.Phase.isEnd, RunTask.reason?]
    | @abandon task crash executes held crashed =>
        have running := coherent.isRunning_of_executes executes
        have found := coherent.distinct.task?_eq_some executes.member
        simp only [move?, join?, running, held, found, crashed, if_true,
          Option.bind_eq_bind, Option.bind_some, RunTask.Phase.isEnd,
          RunTask.reason?]
        rw [coherent.reap_crashed executes crashed]

end Coherent

end Controller

end ScriptDesk

import Mathlib.Data.List.Nodup
import ScriptDesk.Controller
import ScriptDesk.Proofs.RunMachine.Consistency

/-!
# Steps of tasks and of waiting

What the functions of the controller do, said once.  `Advances` relates a task
to the phases that it can enter.  The equations below it describe how one task
is changed, and how outcomes are delivered to the machine.
-/

namespace ScriptDesk

namespace RunTask

/-- The task has neither sent an outcome nor come to an end. -/
def Phase.isPending : Phase → Bool
  | .spawned => true
  | .waiting => true
  | .working _ => true
  | _ => false

def Phase.hasSent : Phase → Bool
  | .sent => true
  | .finished => true
  | _ => false

/-- The outcome of the task may have been sent: it was, or the task was cancelled at
an unknown time. -/
def Phase.mayHaveSent : Phase → Bool
  | .sent => true
  | .finished => true
  | .cancelled => true
  | _ => false

theorem Phase.not_pending_of_mayHaveSent {phase : Phase}
    (sent : phase.mayHaveSent = true) : phase.isPending = false := by
  cases phase with
  | sent => rfl
  | finished => rfl
  | cancelled => rfl
  | spawned => cases sent
  | waiting => cases sent
  | working ending => cases sent
  | crashed crash => cases sent

/-- The phases that a task can enter by a step, given how the executor ends that
begins to work on its script. -/
inductive Advances (task : RunTask) (ending : Ending) :
    TaskStep → RunTask.Phase → Prop where
  | start (spawned : task.phase = .spawned) (live : task.aborted = false) :
      Advances task ending .start .waiting
  | proceed (waiting : task.phase = .waiting) :
      Advances task ending .proceed (.working ending)
  | send {outcome : Outcome} (reports : task.phase = .working (.reports outcome)) :
      Advances task ending .send .sent
  | finish (sent : task.phase = .sent) :
      Advances task ending .finish .finished
  | crash {crash : Crash} (crashes : task.phase = .working (.crashes crash)) :
      Advances task ending .crash (.crashed crash)
  | cancel (aborted : task.aborted = true) (going : task.phase.isEnd = false) :
      Advances task ending .cancel .cancelled

theorem nextPhase?_eq_some_iff
    {task : RunTask} {ending : Ending} {step : TaskStep} {phase : Phase} :
    task.nextPhase? ending step = some phase ↔ Advances task ending step phase := by
  constructor
  · intro next
    cases step with
    | start =>
        simp only [nextPhase?] at next
        split at next
        case h_1 spawned =>
          split at next
          case isTrue => simp at next
          case isFalse live =>
            cases next
            exact .start spawned (by simpa using live)
        case h_2 => simp at next
    | proceed =>
        simp only [nextPhase?] at next
        split at next
        case h_1 waiting =>
          cases next
          exact .proceed waiting
        case h_2 => simp at next
    | send =>
        simp only [nextPhase?] at next
        split at next
        case h_1 outcome reports =>
          cases next
          exact .send reports
        case h_2 => simp at next
    | finish =>
        simp only [nextPhase?] at next
        split at next
        case h_1 sent =>
          cases next
          exact .finish sent
        case h_2 => simp at next
    | crash =>
        simp only [nextPhase?] at next
        split at next
        case h_1 crash crashes =>
          cases next
          exact .crash crashes
        case h_2 => simp at next
    | cancel =>
        simp only [nextPhase?] at next
        split at next
        case isTrue possible =>
          cases next
          obtain ⟨aborted, going⟩ := Bool.and_eq_true_iff.mp possible
          exact .cancel aborted (by simpa using going)
        case isFalse => simp at next
  · intro advances
    cases advances with
    | start spawned live => simp [nextPhase?, spawned, live]
    | proceed waiting => simp [nextPhase?, waiting]
    | send reports => simp [nextPhase?, reports]
    | finish sent => simp [nextPhase?, sent]
    | crash crashes => simp [nextPhase?, crashes]
    | cancel aborted going => simp [nextPhase?, aborted, going]

namespace Advances

variable {task : RunTask} {ending : Ending} {step : TaskStep} {phase : Phase}

theorem going (advances : Advances task ending step phase) :
    task.phase.isEnd = false := by
  cases advances with
  | start spawned _ => simp [spawned, Phase.isEnd]
  | proceed waiting => simp [waiting, Phase.isEnd]
  | send reports => simp [reports, Phase.isEnd]
  | finish sent => simp [sent, Phase.isEnd]
  | crash crashes => simp [crashes, Phase.isEnd]
  | cancel _ going => exact going

theorem pending_before (advances : Advances task ending step phase)
    (pending : phase.isPending = true) : task.phase.isPending = true := by
  cases advances with
  | start spawned _ => simp [spawned, Phase.isPending]
  | proceed waiting => simp [waiting, Phase.isPending]
  | send _ => cases pending
  | finish _ => cases pending
  | crash _ => cases pending
  | cancel _ _ => cases pending

theorem aborted_of_cancelled (advances : Advances task ending step phase)
    (cancelled : phase = .cancelled) : task.aborted = true := by
  cases advances with
  | cancel aborted _ => exact aborted
  | start => cases cancelled
  | proceed => cases cancelled
  | send => cases cancelled
  | finish => cases cancelled
  | crash => cases cancelled

theorem mayHaveSent_after (advances : Advances task ending step phase)
    (sent : task.phase.mayHaveSent = true) : phase.mayHaveSent = true := by
  cases advances with
  | start spawned _ => simp [spawned, Phase.mayHaveSent] at sent
  | proceed waiting => simp [waiting, Phase.mayHaveSent] at sent
  | send _ => rfl
  | finish _ => rfl
  | crash crashes => simp [crashes, Phase.mayHaveSent] at sent
  | cancel _ _ => rfl

/-- A task that has sent its outcome had sent it before, or sends it now. -/
theorem sent_before_or_now (advances : Advances task ending step phase)
    (sent : phase.hasSent = true) :
    task.phase.hasSent = true ∨ ∃ outcome, task.sent? step = some outcome := by
  cases advances with
  | start => cases sent
  | proceed => cases sent
  | @send outcome reports => exact .inr ⟨outcome, by simp [sent?, reports]⟩
  | finish before => exact .inl (by simp [before, Phase.hasSent])
  | crash => cases sent
  | cancel => cases sent

/-- What is sent is the outcome with which the executor ended. -/
theorem working_of_sent (advances : Advances task ending step phase)
    {outcome : Outcome} (sends : task.sent? step = some outcome) :
    task.phase = .working (.reports outcome) ∧ phase = .sent := by
  cases advances with
  | @send reported reports =>
      have same : reported = outcome := by simpa [sent?, reports] using sends
      exact ⟨by rw [reports, same], rfl⟩
  | start => cases sends
  | proceed => cases sends
  | finish => cases sends
  | crash => cases sends
  | cancel => cases sends

end Advances

end RunTask

namespace Controller

variable {controller : Controller} {run : RunId}

theorem mem_of_task? {task : RunTask} (found : controller.task? run = some task) :
    task ∈ controller.tasks ∧ task.run = run :=
  ⟨List.mem_of_find?_eq_some found, by simpa using List.find?_some found⟩

/-- No two tasks execute the same run. -/
def DistinctRuns (controller : Controller) : Prop :=
  (controller.tasks.map RunTask.run).Nodup

theorem DistinctRuns.eq_of_run (distinct : controller.DistinctRuns)
    {task other : RunTask} (member : task ∈ controller.tasks)
    (otherMember : other ∈ controller.tasks) (same : task.run = other.run) :
    task = other :=
  List.inj_on_of_nodup_map distinct member otherMember same

theorem DistinctRuns.task?_eq_some (distinct : controller.DistinctRuns)
    {task : RunTask} (member : task ∈ controller.tasks) :
    controller.task? task.run = some task := by
  have found : (controller.task? task.run).isSome = true := by
    rw [task?, List.find?_isSome]
    exact ⟨task, member, by simp⟩
  obtain ⟨other, otherFound⟩ := Option.isSome_iff_exists.mp found
  obtain ⟨otherMember, sameRun⟩ := mem_of_task? otherFound
  rw [otherFound, distinct.eq_of_run otherMember member sameRun]

section ChangeTask

variable {change : RunTask → RunTask}

theorem changeTask_runs (controller : Controller) (run : RunId)
    (keeps : ∀ task, (change task).run = task.run) :
    (controller.changeTask run change).tasks.map RunTask.run =
      controller.tasks.map RunTask.run := by
  simp only [changeTask, List.map_map]
  apply List.map_congr_left
  intro task _
  by_cases same : task.run = run <;> simp [same, keeps]

theorem mem_changeTask_iff (distinct : controller.DistinctRuns)
    {task : RunTask} (member : task ∈ controller.tasks) {other : RunTask} :
    other ∈ (controller.changeTask task.run change).tasks ↔
      other = change task ∨ other ∈ controller.tasks ∧ other.run ≠ task.run := by
  simp only [changeTask, List.mem_map]
  constructor
  · rintro ⟨before, beforeMember, rfl⟩
    by_cases same : before.run = task.run
    · left
      rw [if_pos same, distinct.eq_of_run beforeMember member same]
    · right
      rw [if_neg same]
      exact ⟨beforeMember, same⟩
  · rintro (rfl | ⟨otherMember, different⟩)
    · exact ⟨task, member, by simp⟩
    · exact ⟨other, otherMember, by simp [different]⟩

end ChangeTask

/-- The controller after a step by which a task enters a phase. -/
def advanced (executor : Executor) (controller : Controller) (task : RunTask)
    (step : TaskStep) (phase : RunTask.Phase) : Controller :=
  { controller.changeTask task.run fun task => { task with phase := phase } with
    queue := controller.queue ++
      (task.sent? step).toList.map fun outcome => (task.run, outcome)
    system := (controller.performed executor task step).1 }

theorem mem_advanced_iff (executor : Executor) (step : TaskStep)
    (phase : RunTask.Phase) (distinct : controller.DistinctRuns)
    {task : RunTask} (member : task ∈ controller.tasks) (other : RunTask) :
    other ∈ (controller.advanced executor task step phase).tasks ↔
      other = { task with phase := phase } ∨
        other ∈ controller.tasks ∧ other.run ≠ task.run :=
  mem_changeTask_iff distinct member

/-- What holds of every task holds after a step, if it holds of the task that took it. -/
theorem forall_advanced (executor : Executor) (step : TaskStep)
    {phase : RunTask.Phase} (distinct : controller.DistinctRuns)
    {task : RunTask} (member : task ∈ controller.tasks)
    {holds : RunTask → Prop} (before : ∀ other ∈ controller.tasks, holds other)
    (changed : holds { task with phase := phase }) :
    ∀ other ∈ (controller.advanced executor task step phase).tasks, holds other := by
  intro other otherMember
  rcases (mem_advanced_iff executor step phase distinct member other).mp otherMember with
    rfl | ⟨otherBefore, _⟩
  · exact changed
  · exact before other otherBefore

theorem distinctRuns_advanced (executor : Executor) (step : TaskStep)
    (phase : RunTask.Phase) (distinct : controller.DistinctRuns)
    (task : RunTask) :
    (controller.advanced executor task step phase).DistinctRuns := by
  have runs :
      (controller.advanced executor task step phase).tasks.map RunTask.run =
        controller.tasks.map RunTask.run :=
    changeTask_runs controller task.run fun _ => rfl
  unfold DistinctRuns
  rw [runs]
  exact distinct

theorem taskStep?_eq_some_iff {executor : Executor} {step : TaskStep}
    {next : Controller} :
    controller.taskStep? executor run step = some next ↔
      ∃ task phase, controller.task? run = some task ∧
        RunTask.Advances task (controller.performed executor task step).2 step phase ∧
        next = controller.advanced executor task step phase := by
  cases found : controller.task? run with
  | none => simp [taskStep?, found]
  | some task =>
      have sameRun := (mem_of_task? found).2
      simp only [taskStep?, found, Option.bind_eq_bind, Option.bind_some,
        Option.bind_eq_some_iff, Option.pure_def, Option.some.injEq,
        RunTask.nextPhase?_eq_some_iff]
      constructor
      · rintro ⟨phase, advances, rfl⟩
        exact ⟨task, phase, rfl, advances, by rw [← sameRun]; rfl⟩
      · rintro ⟨_, phase, rfl, advances, rfl⟩
        exact ⟨phase, advances, by rw [← sameRun]; rfl⟩

theorem requestRun_of_running (script : Text) (number : TaskNumber)
    (running : controller.state.isRunning = true) :
    controller.requestRun script number = (controller, false) := by
  simp only [requestRun,
    RunMachine.beginRun_of_running controller.nextRun script running]

theorem requestRun_of_idle (script : Text) (number : TaskNumber)
    (idle : controller.state.isRunning = false) :
    controller.requestRun script number =
      ({ controller with
          machine := controller.machine.begun controller.nextRun script
          inFlight := some controller.nextRun
          tasks := controller.tasks ++ [RunTask.new controller.nextRun number script]
          nextRun := controller.nextRun + 1 },
        true) := by
  simp only [requestRun,
    RunMachine.beginRun_of_idle controller.nextRun script idle]

theorem takeRequest_of_none (noRequest : controller.machine.pendingRequest = none) :
    controller.takeRequest.1 = controller := by
  simp only [takeRequest, RunMachine.takeRequest, ← noRequest]

/-- What holds of every task holds with the task of a new run, if it holds of that. -/
theorem forall_requested {holds : RunTask → Prop} {tasks : List RunTask}
    {number : TaskNumber} {script : Text} (before : ∀ task ∈ tasks, holds task)
    (added : holds (RunTask.new run number script)) :
    ∀ task ∈ tasks ++ [RunTask.new run number script], holds task := by
  rw [List.forall_mem_append, List.forall_mem_singleton]
  exact ⟨before, added⟩

/-- The task that is held, aborted, and every other task as it is. -/
def abortHeld (controller : Controller) (task : RunTask) : RunTask :=
  if controller.inFlight = some task.run then { task with aborted := true }
  else task

section AbortHeld

variable {task : RunTask}

@[simp] theorem run_abortHeld : (controller.abortHeld task).run = task.run := by
  unfold abortHeld
  split <;> rfl

@[simp] theorem script_abortHeld :
    (controller.abortHeld task).script = task.script := by
  unfold abortHeld
  split <;> rfl

@[simp] theorem phase_abortHeld :
    (controller.abortHeld task).phase = task.phase := by
  unfold abortHeld
  split <;> rfl

theorem aborted_abortHeld (aborted : task.aborted = true) :
    (controller.abortHeld task).aborted = true := by
  unfold abortHeld
  split
  · rfl
  · exact aborted

theorem live_abortHeld (live : (controller.abortHeld task).aborted = false) :
    task.aborted = false ∧ controller.inFlight ≠ some task.run := by
  unfold abortHeld at live
  split at live
  case isTrue => cases live
  case isFalse notHeld => exact ⟨live, notHeld⟩

end AbortHeld

theorem requestReset_eq (controller : Controller) :
    controller.requestReset =
      { controller with
        machine := controller.machine.reset
        inFlight := none
        tasks := controller.tasks.map controller.abortHeld } := by
  cases held : controller.inFlight with
  | none =>
      have same : controller.abortHeld = id := by
        funext task
        simp [abortHeld, held]
      simp [requestReset, held, same]
  | some run =>
      simp only [requestReset, held, changeTask]
      congr 1
      apply List.map_congr_left
      intro task _
      by_cases same : task.run = run
      · simp [abortHeld, held, same]
      · simp [abortHeld, held, same, Ne.symm same]

theorem mem_queue_of_rest {first : RunId × Outcome} {rest : List (RunId × Outcome)}
    (queue : controller.queue = first :: rest) :
    ∀ message ∈ rest, message ∈ controller.queue := by
  intro message member
  rw [queue]
  exact List.mem_cons_of_mem first member

theorem deliver_of_current (outcome : Outcome)
    (running : controller.machine.state = .running)
    (current : controller.machine.currentRun = some run) :
    controller.deliver run outcome =
      { controller with
        machine := controller.machine.ended
          (.ofOutcome controller.machine.grammar outcome)
        inFlight := none } := by
  unfold deliver RunMachine.complete
  rw [RunMachine.finish_of_inFlight _ running current]

theorem deliver_of_other (outcome : Outcome)
    (other : controller.machine.currentRun ≠ some run) :
    controller.deliver run outcome = controller := by
  unfold deliver RunMachine.complete
  rw [RunMachine.finish_of_other _ other]

theorem deliverAll_of_others {messages : List (RunId × Outcome)}
    (others : ∀ message ∈ messages,
      controller.machine.currentRun ≠ some message.1) :
    controller.deliverAll messages = controller := by
  induction messages with
  | nil => rfl
  | cons message messages induction =>
      have first := others message List.mem_cons_self
      rw [deliverAll, deliver_of_other message.2 first]
      exact induction fun later member =>
        others later (List.mem_cons_of_mem message member)

/-- Without an outcome of the run in flight in the queue, reaping gives that run up. -/
theorem reap_of_others (reason : Text)
    (running : controller.machine.state = .running)
    (current : controller.machine.currentRun = some run)
    (others : ∀ message ∈ controller.queue, message.1 ≠ run) :
    controller.reap reason =
      { controller with
        machine := controller.machine.ended (.failed (.launch reason))
        queue := [] } := by
  have unchanged :
      ({ controller with queue := [] } : Controller).deliverAll controller.queue =
        { controller with queue := [] } := by
    apply deliverAll_of_others
    intro message member
    change controller.machine.currentRun ≠ some message.1
    rw [current]
    simpa using (others message member).symm
  unfold reap
  rw [unchanged]
  simp only [current, RunMachine.abandon,
    RunMachine.finish_of_inFlight _ running current]

end Controller

end ScriptDesk

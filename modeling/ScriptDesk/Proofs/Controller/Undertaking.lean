import ScriptDesk.Proofs.Controller.Progress
import ScriptDesk.Proofs.Controller.StateChange

/-!
# One run from its request to its end

An idle controller may still have tasks from earlier runs that were aborted.  Such a task
may ask the executor at any time, and the script of a new run is then executed on the
system that it has left.  `MayEnd` says how the executor may end a script in these
circumstances.

While a run is in flight, whatever is known about its end is an end to which the executor
may come, and the machine has not changed since the run was begun.  When the run is over,
the machine is what such an end makes of it.
-/

namespace ScriptDesk

/-- The systems to which a system comes when some of the scripts are executed on it. -/
inductive Executor.Leads (executor : Executor) (scripts : List Text) (system : System) :
    System → Prop where
  | refl : Leads executor scripts system system
  | execute {middle : System} {script : Text} (leads : Leads executor scripts system middle)
      (member : script ∈ scripts) :
      Leads executor scripts system (executor.execute middle script).1

namespace RunTask.Phase

/-- The executor has not been asked to execute the script of the task. -/
def isUnasked : Phase → Bool
  | .spawned => true
  | .waiting => true
  | _ => false

/-- How the executor ends, as long as the task knows it. -/
def ending? : Phase → Option Ending
  | .working ending => some ending
  | .crashed crash => some (.crashes crash)
  | _ => none

end RunTask.Phase

/-- The state in which a run ends, given the number of its task and how the executor has
ended. -/
def Ending.state? (grammar : Grammar) (number : TaskNumber) : Ending → Option RunState
  | .reports outcome => some (.ofOutcome grammar outcome)
  | .crashes crash => some (.failed (.launch (RunTask.failure number crash.manner)))
  | .never => none

namespace RunMachine

/-- The machine after a run, given the number of its task and how the executor has ended. -/
def afterRun? (machine : RunMachine) (run : RunId) (number : TaskNumber) :
    Ending → Option RunMachine
  | .reports outcome => some (machine.complete run outcome).1
  | .crashes crash => some (machine.abandon run (RunTask.failure number crash.manner)).1
  | .never => none

theorem afterRun?_begun (machine : RunMachine) (run : RunId) (number : TaskNumber)
    (script : Text) (ending : Ending) :
    (machine.begun run script).afterRun? run number ending =
      (ending.state? machine.grammar number).map (machine.begun run script).ended := by
  cases ending with
  | reports outcome =>
      simp only [afterRun?, complete]
      rw [finish_of_inFlight _ rfl rfl]
      rfl
  | crashes crash =>
      simp only [afterRun?, abandon]
      rw [finish_of_inFlight _ rfl rfl]
      rfl
  | never => rfl

theorem stopped_of_afterRun? {machine after : RunMachine} {run : RunId} {number : TaskNumber}
    {script : Text} {ending : Ending}
    (ended : (machine.begun run script).afterRun? run number ending = some after) :
    after.state.isRunning = false := by
  rw [afterRun?_begun, Option.map_eq_some_iff] at ended
  obtain ⟨state, leads, rfl⟩ := ended
  cases ending with
  | reports outcome =>
      cases leads
      exact RunState.isRunning_ofOutcome _ _
  | crashes crash =>
      cases leads
      rfl
  | never => cases leads

end RunMachine

namespace Controller

/-- The scripts of the tasks that may still ask the executor. -/
def lingering (controller : Controller) : List Text :=
  (controller.tasks.filter fun task => task.phase.isUnasked).map RunTask.script

/-- The executor may come to an end with a script, whatever other tasks do before it is
asked. -/
def MayEnd (executor : Executor) (controller : Controller) (script : Text)
    (ending : Ending) : Prop :=
  ∃ asked, executor.Leads controller.lingering controller.system asked ∧
    (executor.execute asked script).2 = ending

/-- The run that was requested of an idle controller is in flight. -/
structure Pursues (executor : Executor) (origin : Controller) (script : Text)
    (number : TaskNumber) (controller : Controller) : Prop where
  machine : controller.machine = origin.machine.begun origin.nextRun script
  others : ∀ task ∈ controller.tasks, task.run ≠ origin.nextRun →
    task.phase.isUnasked = true → task.script ∈ origin.lingering
  script_eq : ∀ task ∈ controller.tasks, task.run = origin.nextRun → task.script = script
  number_eq : ∀ task ∈ controller.tasks, task.run = origin.nextRun → task.number = number
  /-- Until the executor is asked, only other tasks have changed the system. -/
  unasked : ∀ task ∈ controller.tasks, task.run = origin.nextRun →
    task.phase.isUnasked = true →
      executor.Leads origin.lingering origin.system controller.system
  ending : ∀ task ∈ controller.tasks, task.run = origin.nextRun →
    ∀ ending, task.phase.ending? = some ending → origin.MayEnd executor script ending
  queued : ∀ outcome, (origin.nextRun, outcome) ∈ controller.queue →
    origin.MayEnd executor script (.reports outcome)

/-- What has become of a run that was requested of an idle controller. -/
inductive Undertaken (executor : Executor) (origin : Controller) (script : Text)
    (number : TaskNumber) (controller : Controller) : Prop where
  | underWay (pursues : Pursues executor origin script number controller)
  | finished {ending : Ending} (possible : origin.MayEnd executor script ending)
      (machine : (origin.machine.begun origin.nextRun script).afterRun? origin.nextRun
        number ending = some controller.machine)

variable {grammar : Grammar} {executor : Executor} {script : Text} {number : TaskNumber}
variable {origin controller next later : Controller} {task : RunTask} {move : Move}

/-- While nothing is in flight, only tasks take steps. -/
theorem Coherent.exists_advance_of_idle (coherent : Coherent grammar controller)
    (idle : controller.state.isRunning = false)
    (moves : Moves executor controller move next) :
    ∃ task step phase, task ∈ controller.tasks ∧ move = .task task.run step ∧
      RunTask.Advances task (controller.performed executor task step).2 step phase ∧
      next = controller.advanced executor task step phase := by
  have stopped : ∀ {task}, ¬ controller.Executes task := by
    intro task executes
    rw [coherent.isRunning_of_executes executes] at idle
    cases idle
  cases moves with
  | advance member advances => exact ⟨_, _, _, member, rfl, advances, rfl⟩
  | drop executes => exact (stopped executes).elim
  | complete executes => exact (stopped executes).elim
  | release executes => exact (stopped executes).elim
  | abandon executes => exact (stopped executes).elim

/-- A run can be requested before a task takes a step as well as after it. -/
theorem Coherent.move?_requestRun (coherent : Coherent grammar controller)
    (idle : controller.state.isRunning = false) (script : Text) (number : TaskNumber)
    (moved : controller.move? executor move = some next) :
    (controller.requestRun script number).1.move? executor move = some (next.requestRun script number).1 := by
  obtain ⟨task, step, phase, member, rfl, advances, rfl⟩ :=
    coherent.exists_advance_of_idle idle (coherent.move?_eq_some_iff.mp moved)
  have requested := requestRun_of_idle script number idle
  have memberStill : task ∈ (controller.requestRun script number).1.tasks := by
    rw [requested]
    exact List.mem_append_left _ member
  have advancesStill : RunTask.Advances task
      ((controller.requestRun script number).1.performed executor task step).2 step phase := by
    rw [requested]
    exact advances
  have other : controller.nextRun ≠ task.run := Nat.ne_of_gt (coherent.below task member)
  rw [(coherent.requestRun script number).move?_eq_some_iff.mpr (.advance memberStill advancesStill)]
  have idleStill : (controller.advanced executor task step phase).state.isRunning = false := idle
  rw [requested, requestRun_of_idle script number idleStill]
  simp only [advanced, changeTask, List.map_append, List.map_cons, List.map_nil, RunTask.new,
    if_neg other]
  rfl

theorem Coherent.moveAll?_requestRun {moves : List Move} (coherent : Coherent grammar controller)
    (idle : controller.state.isRunning = false) (script : Text) (number : TaskNumber)
    (moved : controller.moveAll? executor moves = some next) :
    (controller.requestRun script number).1.moveAll? executor moves = some (next.requestRun script number).1 := by
  induction moves generalizing controller with
  | nil =>
      cases moved
      rfl
  | cons move moves induction =>
      obtain ⟨middle, first, rest⟩ := moveAll?_cons_eq_some_iff.mp moved
      have idleStill : middle.state.isRunning = false := by
        obtain ⟨task, step, phase, -, -, -, rfl⟩ :=
          coherent.exists_advance_of_idle idle (coherent.move?_eq_some_iff.mp first)
        exact idle
      exact moveAll?_cons_eq_some_iff.mpr ⟨_, coherent.move?_requestRun idle script number first,
        induction (coherent.move? first) idleStill rest⟩

theorem Coherent.nextRun_eq {moves : List Move} (coherent : Coherent grammar controller)
    (moved : controller.moveAll? executor moves = some later) :
    later.nextRun = controller.nextRun := by
  have preserves : ∀ {present next : Controller} {move : Move}, Coherent grammar present →
      present.nextRun = controller.nextRun → Moves executor present move next →
      next.nextRun = controller.nextRun := by
    intro present next move _ same moves
    cases moves <;> exact same
  exact coherent.preserved preserves rfl moved

theorem state_eq_of_stopped {moves : List Move} (stopped : controller.state.isRunning = false)
    (moved : controller.moveAll? executor moves = some later) :
    later.state = controller.state := by
  induction moves generalizing controller with
  | nil =>
      cases moved
      rfl
  | cons move moves induction =>
      obtain ⟨next, first, rest⟩ := moveAll?_cons_eq_some_iff.mp moved
      have kept := (keptOrEnded_of_move? first).eq_of_not_left fun left =>
        Bool.false_ne_true (stopped.symm.trans left.1)
      have stoppedStill : next.state.isRunning = false := by
        rw [kept]
        exact stopped
      exact (induction stoppedStill rest).trans kept

/-- Among moves after which a run is over there is one that ends it. -/
theorem exists_ending_move {moves : List Move} (running : controller.state.isRunning = true)
    (moved : controller.moveAll? executor moves = some later)
    (stopped : later.state.isRunning = false) :
    ∃ before move after middle next, moves = before ++ move :: after ∧
      controller.moveAll? executor before = some middle ∧ middle.state.isRunning = true ∧
      middle.move? executor move = some next ∧ next.state.isRunning = false ∧
      later.state = next.state := by
  induction moves generalizing controller with
  | nil =>
      cases moved
      rw [running] at stopped
      cases stopped
  | cons move moves induction =>
      obtain ⟨next, first, rest⟩ := moveAll?_cons_eq_some_iff.mp moved
      cases runs : next.state.isRunning with
      | false =>
          exact ⟨[], move, moves, controller, next, rfl, rfl, running, first, runs,
            state_eq_of_stopped runs rest⟩
      | true =>
          obtain ⟨before, last, after, middle, ended, rfl, moved, facts⟩ := induction runs rest
          exact ⟨move :: before, last, after, middle, ended, rfl,
            moveAll?_cons_eq_some_iff.mpr ⟨next, first, moved⟩, facts⟩

theorem system_performed (executor : Executor) (controller : Controller) {task : RunTask}
    {step : TaskStep} {phase : RunTask.Phase}
    (advances : RunTask.Advances task (controller.performed executor task step).2 step phase) :
    (controller.performed executor task step).1 = controller.system ∨
      task.phase = .waiting ∧ (controller.performed executor task step).1 =
        (executor.execute controller.system task.script).1 := by
  cases advances with
  | proceed waiting => exact .inr ⟨waiting, rfl⟩
  | start => exact .inl rfl
  | send => exact .inl rfl
  | finish => exact .inl rfl
  | crash => exact .inl rfl
  | cancel => exact .inl rfl

namespace Pursues

theorem requestRun (coherent : Coherent grammar origin)
    (idle : origin.state.isRunning = false) :
    Pursues executor origin script number (origin.requestRun script number).1 := by
  rw [requestRun_of_idle script number idle]
  have others : ∀ task ∈ origin.tasks, task.run ≠ origin.nextRun :=
    fun task member => Nat.ne_of_lt (coherent.below task member)
  constructor
  · rfl
  · apply forall_requested
    · intro task member _ unasked
      exact List.mem_map_of_mem (List.mem_filter.mpr ⟨member, unasked⟩)
    · exact fun other => absurd rfl other
  · apply forall_requested
    · exact fun task member same => absurd same (others task member)
    · exact fun _ => rfl
  · apply forall_requested
    · exact fun task member same => absurd same (others task member)
    · exact fun _ => rfl
  · exact fun _ _ _ _ => .refl
  · apply forall_requested
    · exact fun task member same => absurd same (others task member)
    · intro _ ending known
      cases known
  · intro outcome queued
    obtain ⟨sender, senderMember, sameRun, _⟩ := coherent.sender _ queued
    exact absurd sameRun (others sender senderMember)

theorem run_eq (pursues : Pursues executor origin script number controller)
    (executes : controller.Executes task) : task.run = origin.nextRun := by
  have current := executes.current
  rw [pursues.machine] at current
  exact (Option.some.inj current).symm

theorem advance (pursues : Pursues executor origin script number controller)
    (coherent : Coherent grammar controller) {step : TaskStep} {phase : RunTask.Phase}
    (member : task ∈ controller.tasks)
    (advances : RunTask.Advances task
      (controller.performed executor task step).2 step phase) :
    Pursues executor origin script number (controller.advanced executor task step phase) := by
  have members := mem_advanced_iff executor step phase coherent.distinct member
  constructor
  · exact pursues.machine
  · apply forall_advanced executor step coherent.distinct member pursues.others
    intro other unasked
    apply pursues.others task member other
    cases advances with
    | start spawned _ =>
        rw [spawned]
        rfl
    | proceed => cases unasked
    | send => cases unasked
    | finish => cases unasked
    | crash => cases unasked
    | cancel => cases unasked
  · exact forall_advanced executor step coherent.distinct member pursues.script_eq
      (pursues.script_eq task member)
  · exact forall_advanced executor step coherent.distinct member pursues.number_eq
      (pursues.number_eq task member)
  · intro other otherMember same unasked
    rcases (members other).mp otherMember with rfl | ⟨otherBefore, different⟩
    · cases advances with
      | start spawned _ =>
          have unaskedBefore : task.phase.isUnasked = true := by
            rw [spawned]
            rfl
          exact pursues.unasked task member same unaskedBefore
      | proceed => cases unasked
      | send => cases unasked
      | finish => cases unasked
      | crash => cases unasked
      | cancel => cases unasked
    · have leads := pursues.unasked other otherBefore same unasked
      rcases system_performed executor controller advances with kept | ⟨waiting, executed⟩
      · change executor.Leads _ _ (controller.performed executor task step).1
        rw [kept]
        exact leads
      · change executor.Leads _ _ (controller.performed executor task step).1
        rw [executed]
        have unaskedTask : task.phase.isUnasked = true := by
          rw [waiting]
          rfl
        have otherRun : task.run ≠ origin.nextRun := same ▸ Ne.symm different
        exact leads.execute (pursues.others task member otherRun unaskedTask)
  · apply forall_advanced executor step coherent.distinct member pursues.ending
    intro same ending known
    cases advances with
    | proceed waiting =>
        cases known
        have unasked : task.phase.isUnasked = true := by
          rw [waiting]
          rfl
        refine ⟨controller.system, pursues.unasked task member same unasked, ?_⟩
        rw [← pursues.script_eq task member same]
        rfl
    | crash crashes =>
        cases known
        apply pursues.ending task member same
        rw [crashes]
        rfl
    | start => cases known
    | send => cases known
    | finish => cases known
    | cancel => cases known
  · intro outcome queued
    rcases List.mem_append.mp queued with before | added
    · exact pursues.queued outcome before
    · simp only [List.mem_map, Option.mem_toList, Prod.mk.injEq] at added
      obtain ⟨_, sends, sameRun, rfl⟩ := added
      apply pursues.ending task member sameRun
      rw [(advances.working_of_sent sends).1]
      rfl

/-- A controller with the same tasks that has received something pursues the run too. -/
theorem of_queue (pursues : Pursues executor origin script number controller)
    (machine : next.machine = controller.machine) (tasks : next.tasks = controller.tasks)
    (system : next.system = controller.system)
    (queue : ∀ message ∈ next.queue, message ∈ controller.queue) :
    Pursues executor origin script number next where
  machine := machine.trans pursues.machine
  others := tasks ▸ pursues.others
  script_eq := tasks ▸ pursues.script_eq
  number_eq := tasks ▸ pursues.number_eq
  unasked := by
    rw [tasks, system]
    exact pursues.unasked
  ending := tasks ▸ pursues.ending
  queued := fun outcome queued => pursues.queued outcome (queue _ queued)

end Pursues

namespace Undertaken

theorem moves (undertaken : Undertaken executor origin script number controller)
    (coherent : Coherent grammar controller) (moves : Moves executor controller move next) :
    Undertaken executor origin script number next := by
  cases undertaken with
  | finished possible machine =>
      have stopped : controller.state.isRunning = false := RunMachine.stopped_of_afterRun? machine
      obtain ⟨task, step, phase, -, -, -, rfl⟩ := coherent.exists_advance_of_idle stopped moves
      exact .finished possible machine
  | underWay pursues =>
      cases moves with
      | advance member advances => exact .underWay (pursues.advance coherent member advances)
      | drop executes queue =>
          exact .underWay (pursues.of_queue rfl rfl rfl (mem_queue_of_rest queue))
      | @complete task outcome rest executes queue =>
          have sameRun := pursues.run_eq executes
          have queued : (origin.nextRun, outcome) ∈ controller.queue := by
            rw [queue, sameRun]
            exact List.mem_cons_self
          refine .finished (pursues.queued outcome queued) ?_
          rw [RunMachine.afterRun?_begun, pursues.machine]
          rfl
      | release => exact .underWay (pursues.of_queue rfl rfl rfl fun _ member => member)
      | @abandon task crash executes held crashed =>
          have known : task.phase.ending? = some (.crashes crash) := by
            rw [crashed]
            rfl
          have sameRun := pursues.run_eq executes
          refine .finished (pursues.ending task executes.member sameRun _ known) ?_
          rw [RunMachine.afterRun?_begun, pursues.machine,
            pursues.number_eq task executes.member sameRun]
          rfl

theorem moveAll? (undertaken : Undertaken executor origin script number controller)
    (coherent : Coherent grammar controller) {moves : List Move}
    (moved : controller.moveAll? executor moves = some later) :
    Undertaken executor origin script number later :=
  coherent.preserved (fun coherent undertaken moves => undertaken.moves coherent moves)
    undertaken moved

theorem of_stopped (undertaken : Undertaken executor origin script number controller)
    (stopped : controller.state.isRunning = false) :
    ∃ ending, origin.MayEnd executor script ending ∧
      (origin.machine.begun origin.nextRun script).afterRun? origin.nextRun number ending =
        some controller.machine := by
  cases undertaken with
  | underWay pursues =>
      rw [state, pursues.machine] at stopped
      cases stopped
  | finished possible machine => exact ⟨_, possible, machine⟩

end Undertaken

/-- A run can be ended from wherever it is, if the executor comes to an end with its
script. -/
theorem terminating_undertaken (ends : ¬ origin.MayEnd executor script .never) :
    Terminating grammar executor (Undertaken executor origin script number) where
  moves := fun coherent undertaken moves => undertaken.moves coherent moves
  ends := by
    intro controller task coherent undertaken executes working
    cases undertaken with
    | underWay pursues =>
        have known : task.phase.ending? = some .never := by
          rw [working]
          rfl
        exact ends (pursues.ending task executes.member (pursues.run_eq executes) _ known)
    | finished possible machine =>
        have stopped : controller.state.isRunning = false := RunMachine.stopped_of_afterRun? machine
        rw [coherent.isRunning_of_executes executes] at stopped
        cases stopped

theorem Coherent.can_stop_run {moves : List Move} (coherent : Coherent grammar origin)
    (idle : origin.state.isRunning = false) (ends : ¬ origin.MayEnd executor script .never)
    (moved : (origin.requestRun script number).1.moveAll? executor moves = some controller) :
    ∃ further later, controller.moveAll? executor further = some later ∧
      later.state.isRunning = false := by
  have requested := coherent.requestRun script number
  have undertaken : Undertaken executor origin script number (origin.requestRun script number).1 :=
    .underWay (.requestRun coherent idle)
  exact (terminating_undertaken ends).can_stop (requested.moveAll? moved)
    (undertaken.moveAll? requested moved)

/-- If there is only one end to which the executor may come, all runs end alike. -/
theorem Coherent.state_eq_of_stopped {moves others : List Move} {other : Controller}
    (coherent : Coherent grammar origin) (idle : origin.state.isRunning = false)
    (determined : ∀ one two, origin.MayEnd executor script one →
      origin.MayEnd executor script two → one = two)
    (moved : (origin.requestRun script number).1.moveAll? executor moves = some controller)
    (stopped : controller.state.isRunning = false)
    (otherMoved : (origin.requestRun script number).1.moveAll? executor others = some other)
    (otherStopped : other.state.isRunning = false) : controller.state = other.state := by
  have requested := coherent.requestRun script number
  have undertaken : Undertaken executor origin script number (origin.requestRun script number).1 :=
    .underWay (.requestRun coherent idle)
  obtain ⟨one, possible, machine⟩ := (undertaken.moveAll? requested moved).of_stopped stopped
  obtain ⟨two, otherPossible, otherMachine⟩ :=
    (undertaken.moveAll? requested otherMoved).of_stopped otherStopped
  rw [determined two one otherPossible possible, machine] at otherMachine
  exact congrArg RunMachine.state (Option.some.inj otherMachine)

end Controller

end ScriptDesk

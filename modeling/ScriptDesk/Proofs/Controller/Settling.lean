import ScriptDesk.Proofs.Controller.Progress

/-!
# Letting tasks go as far as they can

To let the tasks go as far as they can is a row of their steps.  The task in flight goes
to its end in it, unless its script has to wait at the gate or the executor is at work for
ever.  So if waiting follows, the run has ended.
-/

namespace ScriptDesk

/-- The place of a step in the order in which a task is let go. -/
def TaskStep.place : TaskStep → Nat
  | .cancel => 0
  | .start => 0
  | .proceed => 1
  | .send => 2
  | .finish => 3
  | .crash => 4

/-- The place of the step that a live task can take.  Behind all places are the phases in
which it can take none. -/
def RunTask.Phase.place : RunTask.Phase → Nat
  | .spawned => 0
  | .waiting => 1
  | .working (.reports _) => 2
  | .sent => 3
  | .working (.crashes _) => 4
  | _ => 5

namespace Controller

variable {grammar : Grammar} {executor : Executor}
variable {controller middle next : Controller} {task : RunTask}

/-- Lets some tasks go as far as they can, one after the other. -/
def settleAll (executor : Executor) (controller : Controller) (tasks : List RunTask)
    (permits : Nat) : Controller × Nat :=
  tasks.foldl
    (fun (settled, remaining) task => settled.settleTask executor task.run remaining)
    (controller, permits)

/-- Tasks have taken steps, and nothing else has happened. -/
def Works (executor : Executor) (controller next : Controller) : Prop :=
  ∃ moves : List Move, (∀ move ∈ moves, ∃ run step, move = .task run step) ∧
    controller.moveAll? executor moves = some next

namespace Works

theorem refl (executor : Executor) (controller : Controller) :
    Works executor controller controller :=
  ⟨[], nofun, rfl⟩

theorem trans (first : Works executor controller middle)
    (second : Works executor middle next) : Works executor controller next := by
  obtain ⟨earlier, earlierTasks, moved⟩ := first
  obtain ⟨later, laterTasks, movedOn⟩ := second
  exact ⟨earlier ++ later, List.forall_mem_append.mpr ⟨earlierTasks, laterTasks⟩,
    moveAll?_append moved movedOn⟩

theorem tryStep (executor : Executor) (run : RunId) (step : TaskStep) (controller : Controller) :
    Works executor controller (controller.tryStep executor run step) := by
  unfold Controller.tryStep
  cases stepped : controller.taskStep? executor run step with
  | none => exact refl executor controller
  | some next =>
      have moved : controller.moveAll? executor [.task run step] = some next :=
        moveAll?_cons_eq_some_iff.mpr ⟨next, stepped, rfl⟩
      exact ⟨_, List.forall_mem_singleton.mpr ⟨run, step, rfl⟩, moved⟩

theorem passGate (executor : Executor) (run : RunId) (permits : Nat)
    (controller : Controller) :
    Works executor controller (controller.passGate executor run permits).1 := by
  unfold Controller.passGate
  split
  · split
    · exact refl executor controller
    · exact tryStep executor run .proceed controller
    · exact tryStep executor run .proceed controller
  · exact refl executor controller

theorem settleTask (executor : Executor) (run : RunId) (permits : Nat)
    (controller : Controller) :
    Works executor controller (controller.settleTask executor run permits).1 := by
  have begun : Works executor controller _ :=
    (tryStep executor run .cancel controller).trans (tryStep executor run .start _)
  have passed := begun.trans (passGate executor run permits _)
  have ended := (passed.trans (tryStep executor run .send _)).trans (tryStep executor run .finish _)
  exact ended.trans (tryStep executor run .crash _)

theorem settleAll (executor : Executor) (tasks : List RunTask) (permits : Nat)
    (controller : Controller) :
    Works executor controller (controller.settleAll executor tasks permits).1 := by
  induction tasks generalizing controller permits with
  | nil => exact refl executor controller
  | cons task tasks induction =>
      have first := settleTask executor task.run permits controller
      exact first.trans (induction _ _)

theorem settle (executor : Executor) (permits : Nat) (controller : Controller) :
    Works executor controller (controller.settle executor permits).1 :=
  settleAll executor controller.tasks permits controller

/-- Tasks do not change the machine. -/
theorem machine_eq (works : Works executor controller next) :
    next.machine = controller.machine := by
  obtain ⟨moves, tasks, moved⟩ := works
  induction moves generalizing controller with
  | nil =>
      cases moved
      rfl
  | cons move moves induction =>
      obtain ⟨middle, first, rest⟩ := moveAll?_cons_eq_some_iff.mp moved
      obtain ⟨run, step, rfl⟩ := tasks move List.mem_cons_self
      obtain ⟨task, phase, _, _, rfl⟩ := taskStep?_eq_some_iff.mp first
      have kept : next.machine = (controller.advanced executor task step phase).machine :=
        induction (fun move member => tasks move (List.mem_cons_of_mem _ member)) rest
      exact kept

theorem coherent (works : Works executor controller next)
    (coherent : Coherent grammar controller) : Coherent grammar next := by
  obtain ⟨moves, _, moved⟩ := works
  exact coherent.moveAll? moved

/-- The task in flight is the same one after steps of tasks. -/
theorem executes (works : Works executor controller next)
    (coherent : Coherent grammar controller) (executes : controller.Executes task) :
    ∃ later, next.Executes later ∧ later.run = task.run ∧ later.script = task.script := by
  have running : next.state.isRunning = true := by
    rw [state, works.machine_eq]
    exact coherent.isRunning_of_executes executes
  obtain ⟨later, executesLater⟩ := (works.coherent coherent).running running
  have current := executesLater.current
  have snapshot := executesLater.snapshot
  rw [works.machine_eq] at current snapshot
  exact ⟨later, executesLater, Option.some.inj (current.symm.trans executes.current),
    Option.some.inj (snapshot.symm.trans executes.snapshot)⟩

end Works

theorem isRunning_of_wait {move : Move} (wait : move = .receive ∨ move = .join)
    (moved : controller.move? executor move = some next) : controller.state.isRunning = true := by
  by_contra stopped
  rcases wait with rfl | rfl
  · simp [move?, receive?, stopped] at moved
  · simp [move?, join?, stopped] at moved

/-- The task in flight after an attempt to take a step: it has taken the step, or the step
is not possible and nothing has changed. -/
structure Attempted (executor : Executor) (controller : Controller) (task : RunTask)
    (step : TaskStep) (later : RunTask) : Prop where
  executes : (controller.tryStep executor task.run step).Executes later
  run_eq : later.run = task.run
  script_eq : later.script = task.script
  outcome : RunTask.Advances task (controller.performed executor task step).2 step later.phase ∨
    later.phase = task.phase ∧
      ∀ phase, ¬ RunTask.Advances task (controller.performed executor task step).2 step phase

/-- When the steps are attempted in their order, a task that has got to the place of a step
gets past it. -/
theorem Attempted.past {step : TaskStep} {later : RunTask}
    (attempted : Attempted executor controller task step later) (live : task.aborted = false)
    (other : step ≠ .cancel) (reached : step.place ≤ task.phase.place) :
    step.place < later.phase.place := by
  rcases attempted.outcome with advances | ⟨same, stuck⟩
  · generalize later.phase = entered at advances ⊢
    cases advances with
    | start => exact Nat.zero_lt_succ 0
    | proceed =>
        cases (controller.performed executor task .proceed).2 with
        | reports outcome => exact Nat.lt_succ_self 1
        | crashes crash => exact (by decide : 1 < 4)
        | never => exact (by decide : 1 < 5)
    | send => exact Nat.lt_succ_self 2
    | finish => exact (by decide : 3 < 5)
    | crash => exact Nat.lt_succ_self 4
    | cancel => exact (other rfl).elim
  · rw [same]
    refine Nat.lt_of_le_of_ne reached fun here => ?_
    cases phase : task.phase with
    | spawned =>
        rw [phase] at here
        cases step with
        | start => exact stuck _ (.start phase live)
        | cancel => exact other rfl
        | _ => cases here
    | waiting =>
        rw [phase] at here
        cases step with
        | proceed => exact stuck _ (.proceed phase)
        | _ => cases here
    | working ending =>
        rw [phase] at here
        cases ending with
        | reports outcome =>
            cases step with
            | send => exact stuck _ (.send phase)
            | _ => cases here
        | crashes crash =>
            cases step with
            | crash => exact stuck _ (.crash phase)
            | _ => cases here
        | never => cases step <;> cases here
    | sent =>
        rw [phase] at here
        cases step with
        | finish => exact stuck _ (.finish phase)
        | _ => cases here
    | finished | crashed | cancelled =>
        rw [phase] at here
        cases step <;> cases here

theorem settle_eq (executor : Executor) {before after : List RunTask}
    (split : controller.tasks = before ++ task :: after) (permits : Nat) :
    ∃ reached first second,
      controller.settleAll executor before permits = (reached, first) ∧
      controller.settle executor permits =
        (reached.settleTask executor task.run first).1.settleAll executor after second := by
  refine ⟨_, _, (((controller.settleAll executor before permits).1.settleTask executor
    task.run (controller.settleAll executor before permits).2).2), rfl, ?_⟩
  unfold settle settleAll
  rw [split, List.foldl_append, List.foldl_cons]

theorem await_eq_moveAll? (executor : Executor) (permits : Nat) (controller : Controller) :
    ∃ moves, controller.moveAll? executor moves = some (controller.await executor permits).1 := by
  cases running : controller.state.isRunning with
  | false =>
      simp only [await, running, Bool.false_eq_true, if_false]
      exact ⟨[], rfl⟩
  | true =>
      obtain ⟨works, -, settled⟩ := Works.settle executor permits controller
      obtain ⟨waits, -, polled⟩ :=
        poll_eq_moveAll? executor (controller.settle executor permits).1
      simp only [await, running, if_true]
      exact ⟨works ++ waits, moveAll?_append settled polled⟩

end Controller

end ScriptDesk

import ScriptDesk.Proofs.Controller.Usage

/-!
# Controllers that are faithful to an executor

If the executor ends each script in a fixed way, then everything that a task or
the queue knows about the end of a run is the end of its script.  Tasks learn it
when the executor begins to work, and the queue learns it from the tasks.
-/

namespace ScriptDesk

/-- How the executor ends depends on the script only, in the way that is given. -/
def Executor.Yields (executor : Executor) (perform : Text → Performance) : Prop :=
  ∀ system script, (executor.execute system script).2 = (perform script).ending

theorem Executor.yields_fixed (perform : Text → Performance) :
    (Executor.fixed perform).Yields perform :=
  fun _ _ => rfl

namespace Controller

/-- What is known about the ends of runs is how their scripts end. -/
structure Faithful (perform : Text → Performance) (controller : Controller) : Prop where
  working : ∀ task ∈ controller.tasks, ∀ ending,
    task.phase = .working ending → ending = (perform task.script).ending
  crashed : ∀ task ∈ controller.tasks, ∀ crash,
    task.phase = .crashed crash → (perform task.script).ending = .crashes crash
  queued : ∀ task ∈ controller.tasks, ∀ outcome,
    (task.run, outcome) ∈ controller.queue →
      (perform task.script).ending = .reports outcome

namespace Faithful

variable {grammar : Grammar} {executor : Executor} {perform : Text → Performance}
variable {controller next : Controller}

theorem new (perform : Text → Performance) (grammar : Grammar) (system : System) :
    Faithful perform (Controller.new grammar system) where
  working := by simp [Controller.new]
  crashed := by simp [Controller.new]
  queued := by simp [Controller.new]

/-- A controller with the same tasks that has received something is faithful too. -/
theorem of_queue (faithful : Faithful perform controller)
    (tasks : next.tasks = controller.tasks)
    (queue : ∀ message ∈ next.queue, message ∈ controller.queue) :
    Faithful perform next := by
  constructor
  · rw [tasks]
    exact faithful.working
  · rw [tasks]
    exact faithful.crashed
  · rw [tasks]
    intro task member outcome queued
    exact faithful.queued task member outcome (queue _ queued)

theorem advance (faithful : Faithful perform controller)
    (coherent : Coherent grammar controller) (yields : executor.Yields perform)
    {task : RunTask} {step : TaskStep} {phase : RunTask.Phase}
    (member : task ∈ controller.tasks)
    (advances : RunTask.Advances task
      (controller.performed executor task step).2 step phase) :
    Faithful perform (controller.advanced executor task step phase) := by
  have members := mem_advanced_iff executor step phase coherent.distinct member
  constructor
  · apply forall_advanced executor step coherent.distinct member faithful.working
    intro ending working
    cases advances with
    | proceed =>
        cases working
        exact yields _ _
    | start => cases working
    | send => cases working
    | finish => cases working
    | crash => cases working
    | cancel => cases working
  · apply forall_advanced executor step coherent.distinct member faithful.crashed
    intro crash crashed
    cases advances with
    | crash crashes =>
        cases crashed
        exact (faithful.working task member _ crashes).symm
    | start => cases crashed
    | proceed => cases crashed
    | send => cases crashed
    | finish => cases crashed
    | cancel => cases crashed
  · intro other otherMember outcome queued
    rcases List.mem_append.mp queued with before | added
    · rcases (members other).mp otherMember with rfl | ⟨otherBefore, _⟩
      · exact faithful.queued task member outcome before
      · exact faithful.queued other otherBefore outcome before
    · simp only [List.mem_map, Option.mem_toList, Prod.mk.injEq] at added
      obtain ⟨_, sends, sameRun, rfl⟩ := added
      rcases (members other).mp otherMember with rfl | ⟨_, different⟩
      · exact (faithful.working task member _ (advances.working_of_sent sends).1).symm
      · exact (different sameRun.symm).elim

theorem moves (faithful : Faithful perform controller)
    (coherent : Coherent grammar controller) (yields : executor.Yields perform)
    {move : Move} (moves : Moves executor controller move next) :
    Faithful perform next := by
  cases moves with
  | advance member advances =>
      exact faithful.advance coherent yields member advances
  | drop executes queue => exact faithful.of_queue rfl (mem_queue_of_rest queue)
  | complete executes queue => exact faithful.of_queue rfl (mem_queue_of_rest queue)
  | release => exact faithful.of_queue rfl fun _ member => member
  | abandon => exact faithful.of_queue rfl fun _ member => by cases member

theorem requestRun (faithful : Faithful perform controller)
    (coherent : Coherent grammar controller) (script : Text) (number : TaskNumber) :
    Faithful perform (controller.requestRun script number).1 := by
  cases running : controller.state.isRunning with
  | true =>
      rw [requestRun_of_running script number running]
      exact faithful
  | false =>
      rw [requestRun_of_idle script number running]
      constructor
      · apply forall_requested faithful.working
        intro ending working
        cases working
      · apply forall_requested faithful.crashed
        intro crash crashed
        cases crashed
      · apply forall_requested faithful.queued
        intro outcome queued
        obtain ⟨sender, senderMember, sameRun, _⟩ := coherent.sender _ queued
        have below := coherent.below sender senderMember
        exact (Nat.ne_of_lt below sameRun).elim

theorem requestReset (faithful : Faithful perform controller) :
    Faithful perform controller.requestReset := by
  rw [requestReset_eq]
  constructor
  · intro task member ending working
    obtain ⟨before, beforeMember, rfl⟩ := List.mem_map.mp member
    simpa using faithful.working before beforeMember ending (by simpa using working)
  · intro task member crash crashed
    obtain ⟨before, beforeMember, rfl⟩ := List.mem_map.mp member
    simpa using faithful.crashed before beforeMember crash (by simpa using crashed)
  · intro task member outcome queued
    obtain ⟨before, beforeMember, rfl⟩ := List.mem_map.mp member
    simpa using faithful.queued before beforeMember outcome (by simpa using queued)

theorem serve (faithful : Faithful perform controller)
    (coherent : Coherent grammar controller) (request : Request) :
    Faithful perform (controller.serve request).1 := by
  cases request with
  | requestRun script number => exact faithful.requestRun coherent script number
  | requestReset => exact faithful.requestReset
  | activateDiagnostic => exact faithful.of_queue rfl fun _ member => member
  | takeRequest => exact faithful.of_queue rfl fun _ member => member

theorem step {usage next : Usage} (faithful : Faithful perform usage.controller)
    (coherent : Coherent grammar usage.controller) (yields : executor.Yields perform)
    {seen : Option Observation} (step : Usage.Step executor usage seen next) :
    Faithful perform next.controller := by
  cases step with
  | serve controller request => exact faithful.serve coherent request
  | wait => exact faithful
  | giveUp => exact faithful
  | task moved =>
      exact faithful.moves coherent yields (coherent.move?_eq_some_iff.mp moved)
  | poll moved =>
      exact faithful.moves coherent yields (coherent.move?_eq_some_iff.mp moved)
  | nextCompletion => exact faithful

theorem follows {usage last : Usage} (faithful : Faithful perform usage.controller)
    (coherent : Coherent grammar usage.controller) (yields : executor.Yields perform)
    {history : List Observation}
    (followed : Usage.Follows executor usage history last) :
    Faithful perform last.controller := by
  induction followed with
  | refl => exact faithful
  | step first _ induction =>
      exact induction (faithful.step coherent yields first) (coherent.step first)

end Faithful

end Controller

end ScriptDesk

import ScriptDesk.Proofs.Controller.Tasks

/-!
# What a move changes

Seen from outside, a controller that is not being used has a state and a system.
A move uses the machine for nothing but ends of runs, so it keeps the state, or
it ends the run in flight; it never starts a run.  And only a task that begins
to work on its script changes the system, by executing that script.  Neither
fact needs the controller to be coherent.
-/

namespace ScriptDesk

/-- The state is kept, or the run in flight has ended. -/
inductive RunState.KeptOrEnded (before : RunState) : RunState → Prop where
  | kept : KeptOrEnded before before
  | ended {after : RunState} (running : before.isRunning = true)
      (stopped : after.isRunning = false) : KeptOrEnded before after

namespace RunState.KeptOrEnded

variable {before middle after : RunState}

theorem trans (first : KeptOrEnded before middle) (second : KeptOrEnded middle after) :
    KeptOrEnded before after := by
  cases first with
  | kept => exact second
  | ended running stopped =>
      cases second with
      | kept => exact .ended running stopped
      | ended runningAgain _ =>
          rw [stopped] at runningAgain
          cases runningAgain

/-- A state that is kept unless it is left is kept if it is not left. -/
theorem eq_of_not_left (course : KeptOrEnded before after)
    (notLeft : ¬(before.isRunning = true ∧ after.isRunning = false)) : after = before := by
  cases course with
  | kept => rfl
  | ended running stopped => exact (notLeft ⟨running, stopped⟩).elim

end RunState.KeptOrEnded

open RunState (KeptOrEnded)

theorem RunMachine.keptOrEnded_finish (machine : RunMachine) (run : RunId)
    {state : RunState} (stopped : state.isRunning = false) :
    KeptOrEnded machine.state (machine.finish run state).1.state := by
  cases inFlight : machine.isInFlight run with
  | true =>
      obtain ⟨running, current⟩ := isInFlight_iff.mp inFlight
      rw [finish_of_inFlight state running current]
      exact .ended ((RunState.isRunning_iff _).mpr running) stopped
  | false =>
      rw [finish_of_not_inFlight state inFlight]
      exact .kept

/-- The machine has been used for ends of runs only, of which any number may have been
refused. -/
inductive RunMachine.Ends (machine : RunMachine) : RunMachine → Prop where
  | none : Ends machine machine
  | complete {later : RunMachine} (earlier : Ends machine later) (run : RunId)
      (outcome : Outcome) : Ends machine (later.complete run outcome).1
  | abandon {later : RunMachine} (earlier : Ends machine later) (run : RunId)
      (reason : Text) : Ends machine (later.abandon run reason).1

namespace RunMachine.Ends

variable {machine middle later : RunMachine}

theorem trans (first : Ends machine middle) (second : Ends middle later) :
    Ends machine later := by
  induction second with
  | none => exact first
  | complete _ run outcome induction => exact induction.complete run outcome
  | abandon _ run reason induction => exact induction.abandon run reason

theorem keptOrEnded (ends : Ends machine later) : KeptOrEnded machine.state later.state := by
  induction ends with
  | none => exact .kept
  | complete _ run outcome induction =>
      exact induction.trans (keptOrEnded_finish _ run (RunState.isRunning_ofOutcome _ _))
  | abandon _ run reason induction => exact induction.trans (keptOrEnded_finish _ run rfl)

theorem consistent {grammar : Grammar} (ends : Ends machine later)
    (before : Consistent grammar machine) : Consistent grammar later := by
  induction ends with
  | none => exact before
  | complete _ run outcome induction => exact induction.complete run outcome
  | abandon _ run reason induction => exact induction.abandon run reason

/-- Neither end of a run changes what is remembered about its start. -/
theorem kept (ends : Ends machine later) :
    later.snapshot = machine.snapshot ∧ later.pendingRequest = machine.pendingRequest := by
  have finish (machine : RunMachine) (run : RunId) (state : RunState) :
      (machine.finish run state).1.snapshot = machine.snapshot ∧
        (machine.finish run state).1.pendingRequest = machine.pendingRequest := by
    unfold RunMachine.finish
    split <;> exact ⟨rfl, rfl⟩
  induction ends with
  | none => exact ⟨rfl, rfl⟩
  | complete _ run outcome induction =>
      obtain ⟨snapshot, request⟩ := finish _ run _
      exact ⟨snapshot.trans induction.1, request.trans induction.2⟩
  | abandon _ run reason induction =>
      obtain ⟨snapshot, request⟩ := finish _ run _
      exact ⟨snapshot.trans induction.1, request.trans induction.2⟩

end RunMachine.Ends

namespace Controller

variable {executor : Executor} {controller next : Controller}

theorem machine_deliver (controller : Controller) (run : RunId) (outcome : Outcome) :
    (controller.deliver run outcome).machine = (controller.machine.complete run outcome).1 := by
  unfold deliver RunMachine.complete RunMachine.finish
  cases controller.machine.isInFlight run <;> rfl

/-- What waiting changes at most: the run in flight may have ended. -/
structure Waited (controller next : Controller) : Prop where
  machine : controller.machine.Ends next.machine
  system : next.system = controller.system

theorem Waited.trans {last : Controller} (first : Waited controller next)
    (second : Waited next last) : Waited controller last :=
  ⟨first.machine.trans second.machine, second.system.trans first.system⟩

theorem waited_forget (controller : Controller) (queue : List (RunId × Outcome))
    (inFlight : Option RunId) :
    Waited controller { controller with queue := queue, inFlight := inFlight } :=
  ⟨.none, rfl⟩

theorem waited_deliver (controller : Controller) (run : RunId) (outcome : Outcome) :
    Waited controller (controller.deliver run outcome) where
  machine := by
    rw [machine_deliver]
    exact .complete .none run outcome
  system := by
    unfold deliver
    split <;> rfl

theorem waited_deliverAll (controller : Controller) (messages : List (RunId × Outcome)) :
    Waited controller (controller.deliverAll messages) := by
  induction messages generalizing controller with
  | nil => exact ⟨.none, rfl⟩
  | cons message messages induction =>
      exact (controller.waited_deliver message.1 message.2).trans (induction _)

theorem waited_reap (controller : Controller) (reason : Text) :
    Waited controller (controller.reap reason) := by
  have delivered : Waited controller
      (({ controller with queue := [] } : Controller).deliverAll controller.queue) :=
    (waited_forget controller [] controller.inFlight).trans (waited_deliverAll _ _)
  simp only [reap]
  split
  case h_1 run _ =>
    exact delivered.trans ⟨.abandon .none run reason, rfl⟩
  case h_2 => exact delivered

theorem waited_of_receive? (received : controller.receive? = some next) :
    Waited controller next := by
  unfold receive? at received
  split at received
  case isFalse => cases received
  case isTrue =>
    split at received
    case h_1 => cases received
    case h_2 run outcome rest _ =>
      cases received
      exact (waited_forget controller rest controller.inFlight).trans
        (waited_deliver _ run outcome)

theorem waited_of_join? (joined : controller.join? = some next) :
    Waited controller next := by
  unfold join? at joined
  split at joined
  case isFalse => cases joined
  case isTrue =>
    simp only [Option.bind_eq_bind, Option.bind_eq_some_iff] at joined
    obtain ⟨run, _, task, _, joined⟩ := joined
    split at joined
    case isFalse => cases joined
    case isTrue =>
      split at joined
      case h_1 reason _ =>
        cases joined
        exact (waited_forget controller controller.queue none).trans (waited_reap _ reason)
      case h_2 =>
        cases joined
        exact waited_forget controller controller.queue none

theorem ends_of_move? {move : Move} (moved : controller.move? executor move = some next) :
    controller.machine.Ends next.machine := by
  cases move with
  | task run step =>
      obtain ⟨task, phase, _, _, rfl⟩ := taskStep?_eq_some_iff.mp moved
      exact .none
  | receive => exact (waited_of_receive? moved).machine
  | join => exact (waited_of_join? moved).machine

theorem keptOrEnded_of_move? {move : Move}
    (moved : controller.move? executor move = some next) :
    KeptOrEnded controller.state next.state :=
  (ends_of_move? moved).keptOrEnded

theorem system_of_move? {move : Move}
    (moved : controller.move? executor move = some next) :
    next.system = controller.system ∨
      ∃ script, next.system = (executor.execute controller.system script).1 := by
  cases move with
  | task run step =>
      obtain ⟨task, phase, _, _, rfl⟩ := taskStep?_eq_some_iff.mp moved
      cases step with
      | proceed => exact .inr ⟨task.script, rfl⟩
      | start => exact .inl rfl
      | send => exact .inl rfl
      | finish => exact .inl rfl
      | crash => exact .inl rfl
      | cancel => exact .inl rfl
  | receive => exact .inl (waited_of_receive? moved).system
  | join => exact .inl (waited_of_join? moved).system

end Controller

end ScriptDesk

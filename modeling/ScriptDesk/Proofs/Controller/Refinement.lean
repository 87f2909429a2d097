import ScriptDesk.Proofs.Controller.Progress
import ScriptDesk.Proofs.Controller.Simulation

/-!
# Refinement of the controller without tasks

The histories of a controller under all schedules are those of the controller
without tasks.  One direction is the simulation.  For the other direction, a
schedule is found for every call that has an answer: the task in flight goes to
its end, and then waiting ends the run.

After a reset the controller has the histories of a new one.  The outcomes of
the runs from before are dropped, since later runs have larger identifiers.
-/

namespace ScriptDesk

namespace Controller

/-- A history is possible for a controller under some schedule. -/
def Allows (executor : Executor) (controller : Controller)
    (history : List Observation) : Prop :=
  ∃ last, Usage.Follows executor ⟨controller, false⟩ history last

/-- The histories of a controller are those of a controller without tasks, and both come
to be the same by them. -/
structure Refines (executor : Executor) (perform : Text → Performance)
    (controller : Controller) (desk : Sequential) : Prop where
  /-- Whatever the schedule, the calls are answered as without tasks. -/
  sound : ∀ history last, Usage.Follows executor ⟨controller, false⟩ history last →
    ∃ later, desk.replay? perform (history.map Observation.call) =
        some (later, history) ∧
      (last.waiting = false → last.controller.sequential = later)
  /-- Calls that are answered without tasks are answered under some schedule. -/
  complete : ∀ calls later history,
    desk.replay? perform calls = some (later, history) →
      ∃ last, Usage.Follows executor ⟨controller, false⟩ history ⟨last, false⟩ ∧
        last.sequential = later

variable {grammar : Grammar} {executor : Executor} {perform : Text → Performance}
variable {controller next later : Controller} {task : RunTask}

/-- The script of the run in flight comes to an end. -/
structure Finite (perform : Text → Performance) (controller : Controller) : Prop where
  faithful : Faithful perform controller
  ends : ∀ script, controller.machine.snapshot = some script →
    (perform script).ending ≠ .never

theorem terminating_finite (yields : executor.Yields perform) :
    Terminating grammar executor (Finite perform) where
  moves := by
    intro controller next move coherent finite moves
    refine ⟨finite.faithful.moves coherent yields moves, ?_⟩
    have snapshot : next.machine.snapshot = controller.machine.snapshot := by
      cases moves <;> rfl
    rw [snapshot]
    exact finite.ends
  ends := by
    intro controller task _ finite executes working
    have same := finite.faithful.working task executes.member .never working
    exact finite.ends task.script executes.snapshot same.symm

/-- A call for the next completion returns under some schedule, if it has an answer. -/
theorem Coherent.completes (coherent : Coherent grammar controller)
    (faithful : Faithful perform controller) (yields : executor.Yields perform)
    {desk : Sequential}
    (answered : controller.sequential.nextCompletion? perform = some desk) :
    ∃ later, Usage.Follows executor ⟨controller, false⟩
        [⟨.nextCompletion, .ended desk.state, desk.state⟩] ⟨later, false⟩ ∧
      later.sequential = desk := by
  obtain ⟨moves, later, moved, stopped⟩ :
      ∃ moves later, controller.moveAll? executor moves = some later ∧
        later.state.isRunning = false := by
    cases running : controller.state.isRunning with
    | false => exact ⟨[], controller, rfl, running⟩
    | true =>
        refine (terminating_finite yields).can_stop coherent ⟨faithful, ?_⟩
        intro script snapshot never
        obtain ⟨task, executes⟩ := coherent.running running
        have sameScript : task.script = script :=
          Option.some.inj (executes.snapshot.symm.trans snapshot)
        simp [Sequential.nextCompletion?, executes.sequential_run coherent, sameScript, never,
          Sequential.stateAfter?] at answered
  have waited := Usage.Follows.of_moveAll? moved
  have matched : Usage.Matches perform controller.sequential ⟨controller, true⟩ := .inl rfl
  obtain ⟨_, replayed, matchedLater⟩ :=
    matched.follows coherent faithful yields waited
  cases replayed
  have same : later.sequential = desk := by
    rw [matchedLater.nextCompletion? stopped] at answered
    exact Option.some.inj answered
  refine ⟨later, ?_, same⟩
  rw [← same]
  exact .silently (.wait controller)
    (waited.trans (.returning (.nextCompletion stopped)))

theorem Coherent.answers (coherent : Coherent grammar controller)
    (faithful : Faithful perform controller) (yields : executor.Yields perform)
    {call : Call} {desk : Sequential} {seen : Observation}
    (answered : controller.sequential.answer? perform call = some (desk, seen)) :
    ∃ later, Usage.Follows executor ⟨controller, false⟩ [seen] ⟨later, false⟩ ∧
      later.sequential = desk := by
  cases call with
  | request request =>
      simp only [Sequential.answer?, sequential_serve coherent, Option.some.injEq,
        Prod.mk.injEq] at answered
      obtain ⟨rfl, rfl⟩ := answered
      exact ⟨_, .returning (.serve controller request), rfl⟩
  | nextCompletion =>
      simp only [Sequential.answer?, Option.map_eq_some_iff, Prod.mk.injEq] at answered
      obtain ⟨_, completed, rfl, rfl⟩ := answered
      exact coherent.completes faithful yields completed

theorem Coherent.refines (coherent : Coherent grammar controller)
    (faithful : Faithful perform controller) (yields : executor.Yields perform) :
    Refines executor perform controller controller.sequential where
  sound := by
    intro history last followed
    have matched : Usage.Matches perform controller.sequential ⟨controller, false⟩ :=
      .inl rfl
    obtain ⟨later, replayed, matchedLast⟩ :=
      matched.follows coherent faithful yields followed
    refine ⟨later, replayed, ?_⟩
    intro returned
    rcases matchedLast with related | ⟨waiting, _⟩
    · exact related
    · rw [returned] at waiting
      cases waiting
  complete := by
    intro calls
    induction calls generalizing controller with
    | nil =>
        intro later history replayed
        cases replayed
        exact ⟨controller, .refl _, rfl⟩
    | cons call calls induction =>
        intro later history replayed
        obtain ⟨middle, seen, rest, answered, replayedRest, rfl⟩ :=
          Sequential.replay?_cons_eq_some_iff.mp replayed
        obtain ⟨next, followed, rfl⟩ := coherent.answers faithful yields answered
        obtain ⟨last, followedRest, same⟩ :=
          induction (coherent.follows followed)
            (faithful.follows coherent yields followed) later rest replayedRest
        exact ⟨last, followed.trans followedRest, same⟩

theorem Refines.allows_iff {desk : Sequential}
    (refines : Refines executor perform controller desk)
    (otherRefines : Refines executor perform next desk) (history : List Observation) :
    controller.Allows executor history ↔ next.Allows executor history := by
  constructor
  · rintro ⟨last, followed⟩
    obtain ⟨later, replayed, _⟩ := refines.sound history last followed
    obtain ⟨other, otherFollowed, _⟩ := otherRefines.complete _ later history replayed
    exact ⟨_, otherFollowed⟩
  · rintro ⟨last, followed⟩
    obtain ⟨later, replayed, _⟩ := otherRefines.sound history last followed
    obtain ⟨other, otherFollowed, _⟩ := refines.complete _ later history replayed
    exact ⟨_, otherFollowed⟩

/-- All runs below a bound are over. -/
structure Beyond (bound : RunId) (controller : Controller) : Prop where
  current : ∀ run, controller.machine.currentRun = some run → bound ≤ run
  nextRun : bound ≤ controller.nextRun

namespace Beyond

variable {bound : RunId}

theorem requestReset (controller : Controller) :
    Beyond controller.nextRun controller.requestReset := by
  rw [requestReset_eq]
  exact ⟨nofun, le_rfl⟩

theorem serve (beyond : Beyond bound controller) (request : Request) :
    Beyond bound (controller.serve request).1 := by
  cases request with
  | requestRun script number =>
      simp only [Controller.serve]
      cases running : controller.state.isRunning with
      | true =>
          rw [requestRun_of_running script number running]
          exact beyond
      | false =>
          rw [requestRun_of_idle script number running]
          refine ⟨?_, Nat.le_succ_of_le beyond.nextRun⟩
          intro run current
          cases current
          exact beyond.nextRun
  | requestReset =>
      simp only [Controller.serve]
      rw [requestReset_eq]
      refine ⟨?_, beyond.nextRun⟩
      intro run current
      cases current
  | activateDiagnostic =>
      refine ⟨?_, beyond.nextRun⟩
      have current : (controller.serve .activateDiagnostic).1.machine.currentRun =
          controller.machine.currentRun := by
        simp only [Controller.serve, Controller.activateDiagnostic,
          RunMachine.activateDiagnostic]
        split <;> rfl
      rw [current]
      exact beyond.current
  | takeRequest => exact ⟨beyond.current, beyond.nextRun⟩

theorem moves (beyond : Beyond bound controller) {move : Move}
    (moves : Moves executor controller move next) : Beyond bound next := by
  cases moves with
  | advance => exact ⟨beyond.current, beyond.nextRun⟩
  | drop => exact ⟨beyond.current, beyond.nextRun⟩
  | complete => exact ⟨nofun, beyond.nextRun⟩
  | release => exact ⟨beyond.current, beyond.nextRun⟩
  | abandon => exact ⟨nofun, beyond.nextRun⟩

theorem follows {usage last : Usage} (beyond : Beyond bound usage.controller)
    (coherent : Coherent grammar usage.controller) {history : List Observation}
    (followed : Usage.Follows executor usage history last) :
    Beyond bound last.controller := by
  induction followed with
  | refl => exact beyond
  | step first _ induction =>
      refine induction ?_ (coherent.step first)
      cases first with
      | serve controller request => exact beyond.serve request
      | wait => exact beyond
      | giveUp => exact beyond
      | task moved => exact beyond.moves (coherent.move?_eq_some_iff.mp moved)
      | poll moved => exact beyond.moves (coherent.move?_eq_some_iff.mp moved)
      | nextCompletion => exact beyond

theorem unchanged (beyond : Beyond bound controller) {run : RunId} (below : run < bound)
    (outcome : Outcome) (reason : Text) :
    controller.deliver run outcome = controller ∧
      controller.machine.abandon run reason = (controller.machine, false) := by
  have other : controller.machine.currentRun ≠ some run :=
    fun current => Nat.not_le_of_lt below (beyond.current run current)
  exact ⟨deliver_of_other outcome other, RunMachine.finish_of_other _ other⟩

end Beyond

/-- A controller refines the controller without tasks, from its beginning and from every
point at which a call can be made.  A reset makes it a new one: its further histories are
those of a new controller, whatever is still in the queue, and the ends of runs that
began before the reset change nothing. -/
theorem refines_sequential (yields : executor.Yields perform)
    (grammar : Grammar) (system : System) :
    Refines executor perform (Controller.new grammar system) (Sequential.new grammar) ∧
    ∀ earlier controller,
      Usage.Follows executor ⟨Controller.new grammar system, false⟩ earlier
        ⟨controller, false⟩ →
      Refines executor perform controller controller.sequential ∧
      Refines executor perform controller.requestReset (Sequential.new grammar) ∧
      (∀ history, controller.requestReset.Allows executor history ↔
        (Controller.new grammar system).Allows executor history) ∧
      (∀ later, Reaches executor controller.requestReset later →
        ∀ run < controller.nextRun, ∀ outcome reason,
          later.deliver run outcome = later ∧
            later.machine.abandon run reason = (later.machine, false)) := by
  have coherentNew := Coherent.new grammar system
  have faithfulNew := Faithful.new perform grammar system
  have refinesNew := coherentNew.refines faithfulNew yields
  rw [sequential_new] at refinesNew
  refine ⟨refinesNew, ?_⟩
  intro earlier controller followed
  have coherent := coherentNew.follows followed
  have faithful := faithfulNew.follows coherentNew yields followed
  have refinesReset := coherent.requestReset.refines faithful.requestReset yields
  rw [sequential_requestReset coherent] at refinesReset
  refine ⟨coherent.refines faithful yields, refinesReset,
    refinesReset.allows_iff refinesNew, ?_⟩
  rintro later ⟨history, waiting, reached⟩ run below outcome reason
  have beyond := (Beyond.requestReset controller).follows coherent.requestReset reached
  exact beyond.unchanged below outcome reason

/-- A reset while the outcome of the run in flight is in the queue. -/
theorem refines_sequential_stale :
    (echoing [(0, .ok (.success ['x'] 0))] (some 0) .sent).requestReset.queue =
        [(0, .ok (.success ['x'] 0))] ∧
      Refines .echo Performance.echo
        (echoing [(0, .ok (.success ['x'] 0))] (some 0) .sent).requestReset
        (Sequential.new fun _ => none) := by
  have moved : (echoing [] (some 0) .spawned).moveAll? .echo
      [.task 0 .start, .task 0 .proceed, .task 0 .send] =
        some (echoing [(0, .ok (.success ['x'] 0))] (some 0) .sent) := rfl
  have yields : Executor.echo.Yields Performance.echo := Executor.yields_fixed _
  have refines := refines_sequential yields (fun _ => none) (System.idle ⟨[], []⟩)
  exact ⟨rfl, (refines.2 _ _ (.echoing moved rfl)).2.1⟩

end Controller

end ScriptDesk

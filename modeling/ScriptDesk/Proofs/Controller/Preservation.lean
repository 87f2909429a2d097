import ScriptDesk.Proofs.Controller.Coherence

/-!
# Preservation of coherence

Every use of a coherent controller and every move leave it coherent.  The two
ways in which a run ends, by its outcome and by a crash, are one lemma: once
the task in flight is no longer pending, no pending task is left that anybody
could wait for.
-/

namespace ScriptDesk

namespace Controller

namespace Executes

variable {controller : Controller} {task : RunTask}

theorem advance_self (executes : controller.Executes task)
    {executor : Executor} {step : TaskStep} {phase : RunTask.Phase}
    (distinct : controller.DistinctRuns)
    (advances : RunTask.Advances task
      (controller.performed executor task step).2 step phase) :
    (controller.advanced executor task step phase).Executes
      { task with phase := phase } where
  member := (mem_advanced_iff executor step phase distinct executes.member _).mpr
    (.inl rfl)
  current := executes.current
  snapshot := executes.snapshot
  live := executes.live
  queued := by
    intro sent
    rcases advances.sent_before_or_now sent with before | ⟨outcome, sends⟩
    · obtain ⟨outcome, queued⟩ := executes.queued before
      exact ⟨outcome, List.mem_append_left _ queued⟩
    · refine ⟨outcome, List.mem_append_right _ ?_⟩
      simp [sends]
  held := by
    rcases executes.held with held | ⟨_, finished⟩
    · exact .inl held
    · have going := advances.going
      rw [finished] at going
      cases going

theorem advance_other (executes : controller.Executes task)
    (executor : Executor) (step : TaskStep) (phase : RunTask.Phase)
    (distinct : controller.DistinctRuns)
    {other : RunTask} (member : other ∈ controller.tasks)
    (different : task.run ≠ other.run) :
    (controller.advanced executor other step phase).Executes task where
  member := (mem_advanced_iff executor step phase distinct member _).mpr
    (.inr ⟨executes.member, different⟩)
  current := executes.current
  snapshot := executes.snapshot
  live := executes.live
  queued := by
    intro sent
    obtain ⟨outcome, queued⟩ := executes.queued sent
    exact ⟨outcome, List.mem_append_left _ queued⟩
  held := executes.held

theorem drop (executes : controller.Executes task)
    {run : RunId} {outcome : Outcome} {rest : List (RunId × Outcome)}
    (queue : controller.queue = (run, outcome) :: rest)
    (other : run ≠ task.run) :
    ({ controller with queue := rest } : Controller).Executes task where
  member := executes.member
  current := executes.current
  snapshot := executes.snapshot
  live := executes.live
  queued := by
    intro sent
    obtain ⟨reported, queued⟩ := executes.queued sent
    rw [queue] at queued
    rcases List.mem_cons.mp queued with first | later
    · cases first
      exact (other rfl).elim
    · exact ⟨reported, later⟩
  held := executes.held

theorem release (executes : controller.Executes task)
    (finished : task.phase = .finished) :
    ({ controller with inFlight := none } : Controller).Executes task where
  member := executes.member
  current := executes.current
  snapshot := executes.snapshot
  live := executes.live
  queued := executes.queued
  held := .inr ⟨rfl, finished⟩

end Executes

namespace Coherent

variable {grammar : Grammar} {controller : Controller}

theorem eq_of_executes_both (coherent : Coherent grammar controller)
    {task other : RunTask} (executes : controller.Executes task)
    (otherExecutes : controller.Executes other) : other = task := by
  have sameRun : some other.run = some task.run :=
    otherExecutes.current.symm.trans executes.current
  exact coherent.eq_of_executes executes otherExecutes.member
    (Option.some.inj sameRun)

/-- If the task in flight is not pending, every pending task was aborted. -/
theorem none_pending (coherent : Coherent grammar controller)
    {task : RunTask} (executes : controller.Executes task)
    (ended : task.phase.isPending = false)
    {other : RunTask} (member : other ∈ controller.tasks)
    (live : other.aborted = false) : other.phase.isPending = false := by
  by_contra going
  have pending : other.phase.isPending = true := by simpa using going
  have otherExecutes := coherent.executes_of_pending member live pending
  rw [coherent.eq_of_executes_both executes otherExecutes, ended] at pending
  cases pending

/-- The run in flight may end once its task is not pending. -/
theorem conclude (coherent : Coherent grammar controller)
    {task : RunTask} (executes : controller.Executes task)
    (ended : task.phase.isPending = false)
    {state : RunState} (concluding : RunMachine.Concluding grammar state)
    {rest : List (RunId × Outcome)}
    (remaining : ∀ message ∈ rest, message ∈ controller.queue) :
    Coherent grammar
      { controller with
        machine := controller.machine.ended state
        queue := rest
        inFlight := none } where
  machine :=
    coherent.machine.ended (coherent.running_of_executes executes) concluding
  distinct := coherent.distinct
  below := coherent.below
  cancelled := coherent.cancelled
  pending := by
    intro other member live pending
    rw [coherent.none_pending executes ended member live] at pending
    cases pending
  sender := fun message member =>
    coherent.sender message (remaining message member)
  idle := fun _ => rfl
  running := by
    intro running
    exact (concluding.not_running ((RunState.isRunning_iff state).mp running)).elim

/-- A machine that differs only in its pending request can take the place of the
controller's. -/
theorem withMachine (coherent : Coherent grammar controller)
    {machine : RunMachine} (consistent : RunMachine.Consistent grammar machine)
    (state : machine.state = controller.machine.state)
    (current : machine.currentRun = controller.machine.currentRun)
    (snapshot : machine.snapshot = controller.machine.snapshot) :
    Coherent grammar { controller with machine := machine } where
  machine := consistent
  distinct := coherent.distinct
  below := coherent.below
  cancelled := coherent.cancelled
  pending := coherent.pending
  sender := coherent.sender
  idle := by
    intro idle
    apply coherent.idle
    simpa only [Controller.state, state] using idle
  running := by
    intro running
    have runningBefore : controller.state.isRunning = true := by
      simpa only [Controller.state, state] using running
    obtain ⟨task, executes⟩ := coherent.running runningBefore
    exact ⟨task, executes.member, current.trans executes.current,
      snapshot.trans executes.snapshot, executes.live, executes.queued,
      executes.held⟩

theorem activateDiagnostic (coherent : Coherent grammar controller) :
    Coherent grammar controller.activateDiagnostic.1 := by
  have consistent := coherent.machine.activateDiagnostic
  apply coherent.withMachine consistent <;>
    unfold RunMachine.activateDiagnostic <;> split <;> rfl

theorem takeRequest (coherent : Coherent grammar controller) :
    Coherent grammar controller.takeRequest.1 :=
  coherent.withMachine coherent.machine.takeRequest rfl rfl rfl

theorem requestRun (coherent : Coherent grammar controller) (script : Text)
    (number : TaskNumber) : Coherent grammar (controller.requestRun script number).1 := by
  cases running : controller.state.isRunning with
  | true =>
      rw [requestRun_of_running script number running]
      exact coherent
  | false =>
      rw [requestRun_of_idle script number running]
      have released := coherent.idle running
      have none_pending : ∀ task ∈ controller.tasks, task.aborted = false →
          task.phase.isPending = false := by
        intro task member live
        by_contra pending
        have held := coherent.pending task member live (by simpa using pending)
        rw [released] at held
        cases held
      constructor
      · have consistent := coherent.machine.beginRun controller.nextRun script
        rw [RunMachine.beginRun_of_idle _ _ running] at consistent
        exact consistent
      · have others : ∀ task ∈ controller.tasks, task.run ≠ controller.nextRun :=
          fun task member => Nat.ne_of_lt (coherent.below task member)
        simpa [DistinctRuns, RunTask.new, List.nodup_append] using
          And.intro coherent.distinct others
      · apply forall_requested
        · exact fun task member => Nat.lt_succ_of_lt (coherent.below task member)
        · exact Nat.lt_succ_self _
      · apply forall_requested coherent.cancelled
        intro cancelled
        cases cancelled
      · apply forall_requested
        · intro task member live pending
          rw [none_pending task member live] at pending
          cases pending
        · intro _ _
          rfl
      · intro message queued
        obtain ⟨task, member, sameRun, sent⟩ := coherent.sender message queued
        exact ⟨task, List.mem_append_left _ member, sameRun, sent⟩
      · intro idle
        cases idle
      · intro _
        refine ⟨RunTask.new controller.nextRun number script,
          List.mem_append_right _ List.mem_cons_self, rfl, rfl, rfl, ?_, .inl rfl⟩
        intro sent
        cases sent

theorem requestReset (coherent : Coherent grammar controller) :
    Coherent grammar controller.requestReset := by
  rw [requestReset_eq]
  constructor
  · exact coherent.machine.reset
  · have runs : (controller.tasks.map controller.abortHeld).map RunTask.run =
        controller.tasks.map RunTask.run := by
      simp [Function.comp_def]
    unfold DistinctRuns
    rw [runs]
    exact coherent.distinct
  · intro task member
    obtain ⟨before, beforeMember, rfl⟩ := List.mem_map.mp member
    simpa using coherent.below before beforeMember
  · intro task member cancelled
    obtain ⟨before, beforeMember, rfl⟩ := List.mem_map.mp member
    apply aborted_abortHeld
    exact coherent.cancelled before beforeMember (by simpa using cancelled)
  · intro task member live pending
    obtain ⟨before, beforeMember, rfl⟩ := List.mem_map.mp member
    obtain ⟨liveBefore, notHeld⟩ := live_abortHeld live
    have held := coherent.pending before beforeMember liveBefore
      (by simpa using pending)
    exact (notHeld held).elim
  · intro message queued
    obtain ⟨task, member, sameRun, sent⟩ := coherent.sender message queued
    exact ⟨controller.abortHeld task, List.mem_map_of_mem member,
      by simpa using sameRun, by simpa using sent⟩
  · exact fun _ => rfl
  · intro running
    cases running

theorem advance (coherent : Coherent grammar controller) {executor : Executor}
    {task : RunTask} {step : TaskStep} {phase : RunTask.Phase}
    (member : task ∈ controller.tasks)
    (advances : RunTask.Advances task
      (controller.performed executor task step).2 step phase) :
    Coherent grammar (controller.advanced executor task step phase) := by
  have members := mem_advanced_iff executor step phase coherent.distinct member
  constructor
  · exact coherent.machine
  · exact distinctRuns_advanced executor step phase coherent.distinct task
  · apply forall_advanced executor step coherent.distinct member coherent.below
    exact coherent.below task member
  · apply forall_advanced executor step coherent.distinct member coherent.cancelled
    exact advances.aborted_of_cancelled
  · apply forall_advanced executor step coherent.distinct member coherent.pending
    intro live pending
    exact coherent.pending task member live (advances.pending_before pending)
  · intro message queued
    rcases List.mem_append.mp queued with before | added
    · obtain ⟨sender, senderMember, sameRun, sent⟩ :=
        coherent.sender message before
      by_cases same : sender.run = task.run
      · have senderEq := coherent.distinct.eq_of_run senderMember member same
        subst senderEq
        exact ⟨{ sender with phase := phase }, (members _).mpr (.inl rfl),
          sameRun, advances.mayHaveSent_after sent⟩
      · exact ⟨sender, (members _).mpr (.inr ⟨senderMember, same⟩), sameRun, sent⟩
    · simp only [List.mem_map, Option.mem_toList] at added
      obtain ⟨outcome, sends, rfl⟩ := added
      refine ⟨{ task with phase := phase }, (members _).mpr (.inl rfl), rfl, ?_⟩
      rw [(advances.working_of_sent sends).2]
      rfl
  · exact coherent.idle
  · intro running
    obtain ⟨current, executes⟩ := coherent.running running
    by_cases same : current.run = task.run
    · have currentEq := coherent.distinct.eq_of_run executes.member member same
      subst currentEq
      exact ⟨_, executes.advance_self coherent.distinct advances⟩
    · exact ⟨current,
        executes.advance_other executor step phase coherent.distinct member same⟩

theorem drop (coherent : Coherent grammar controller)
    {task : RunTask} {run : RunId} {outcome : Outcome}
    {rest : List (RunId × Outcome)}
    (executes : controller.Executes task)
    (queue : controller.queue = (run, outcome) :: rest)
    (other : run ≠ task.run) :
    Coherent grammar { controller with queue := rest } where
  machine := coherent.machine
  distinct := coherent.distinct
  below := coherent.below
  cancelled := coherent.cancelled
  pending := coherent.pending
  sender := fun message queued =>
    coherent.sender message (mem_queue_of_rest queue message queued)
  idle := coherent.idle
  running := fun _ => ⟨task, executes.drop queue other⟩

theorem release (coherent : Coherent grammar controller)
    {task : RunTask} (executes : controller.Executes task)
    (finished : task.phase = .finished) :
    Coherent grammar { controller with inFlight := none } where
  machine := coherent.machine
  distinct := coherent.distinct
  below := coherent.below
  cancelled := coherent.cancelled
  pending := by
    intro other member live pending
    have ended : task.phase.isPending = false := by rw [finished]; rfl
    rw [coherent.none_pending executes ended member live] at pending
    cases pending
  sender := coherent.sender
  idle := fun _ => rfl
  running := fun _ => ⟨task, executes.release finished⟩

theorem moves (coherent : Coherent grammar controller)
    {executor : Executor} {move : Move} {next : Controller}
    (moves : Moves executor controller move next) : Coherent grammar next := by
  cases moves with
  | advance member advances => exact coherent.advance member advances
  | drop executes queue other => exact coherent.drop executes queue other
  | @complete task outcome rest executes queue =>
      have queued : (task.run, outcome) ∈ controller.queue := by
        rw [queue]
        exact List.mem_cons_self
      have sent := coherent.sent_of_queued executes.member queued
      rw [coherent.machine.grammar_eq]
      apply coherent.conclude executes
        (RunTask.Phase.not_pending_of_mayHaveSent sent)
        (RunMachine.concluding_ofOutcome grammar outcome)
      exact mem_queue_of_rest queue
  | release executes _ finished => exact coherent.release executes finished
  | @abandon task crash executes _ crashed =>
      have ended : task.phase.isPending = false := by rw [crashed]; rfl
      apply coherent.conclude executes ended
        (RunMachine.concluding_launch grammar _)
      intro message member
      cases member

end Coherent

end Controller

end ScriptDesk

import ScriptDesk.Proofs.Controller.Rank

/-!
# Progress of waiting

While a run is in flight, either its task is held or its outcome is in the
queue.  In both cases waiting can go on once the task has ended: the outcome is
received, or the task is joined.  Looking once at the controller takes all these
steps, and the run has ended after it.

A task that has not ended can take a step, unless the executor is at work for
ever.  So a run whose executor comes to an end can be ended from wherever it is.
-/

namespace ScriptDesk

/-- How many steps are left for a task that ends by itself. -/
def RunTask.Phase.remaining : RunTask.Phase → Nat
  | .spawned => 4
  | .waiting => 3
  | .working _ => 2
  | .sent => 1
  | _ => 0

namespace RunTask

/-- A task that may still work on its script: nobody has aborted it, and it has
neither sent an outcome nor crashed. -/
def isOutstanding (task : RunTask) : Bool :=
  !task.aborted && task.phase.isPending

end RunTask

def Performance.echo (script : Text) : Performance :=
  ⟨false, .reports (.ok (.success script 0))⟩

/-- The executor whose runs succeed and write their script. -/
def Executor.echo : Executor :=
  .fixed Performance.echo

namespace Controller

/-- Waiting on the controller ends the run in flight, which is executed by a task
that has ended. -/
structure Concludes (executor : Executor) (controller : Controller)
    (task : RunTask) : Prop where
  /-- To look once is enough, and it takes only steps of waiting. -/
  poll : controller.poll.state.isRunning = false ∧
    ∃ moves, (∀ move ∈ moves, move = .receive ∨ move = .join) ∧
      controller.moveAll? executor moves = some controller.poll
  /-- Whatever tasks do in the meantime, waiting is not stuck before the run has ended. -/
  progress : ∀ moves later, controller.moveAll? executor moves = some later →
    later.state.isRunning = true →
      later.receive?.isSome = true ∨ later.join?.isSome = true
  /-- At most one outcome more is received than those of other runs that stand ahead
  or come in ahead during the waiting. -/
  bounded : ∀ moves later, controller.moveAll? executor moves = some later →
    controller.taken executor moves ≤
      controller.ahead task.run + moves.countP Move.sends + 1
  /-- Nothing comes in ahead of an outcome that has been sent. -/
  bounded_of_finished : task.phase = .finished →
    ∀ moves later, controller.moveAll? executor moves = some later →
      controller.taken executor moves ≤ controller.ahead task.run + 1

variable {grammar : Grammar} {executor : Executor}
variable {controller later : Controller} {task : RunTask}
variable {moves : List Move}

theorem Executes.can_wait (executes : controller.Executes task)
    (coherent : Coherent grammar controller) (ended : task.phase.isEnd = true) :
    controller.receive?.isSome = true ∨ controller.join?.isSome = true := by
  have running := coherent.isRunning_of_executes executes
  have found := coherent.distinct.task?_eq_some executes.member
  rcases executes.held with held | ⟨_, finished⟩
  · right
    simp only [join?, running, held, found, ended, if_true, Option.bind_eq_bind,
      Option.bind_some]
    split <;> rfl
  · left
    obtain ⟨outcome, queued⟩ := executes.queued (by rw [finished]; rfl)
    simp only [receive?, running, if_true]
    split
    case h_1 empty =>
      rw [empty] at queued
      cases queued
    case h_2 => rfl

theorem deliver_withQueue (controller : Controller)
    (messages : List (RunId × Outcome)) (run : RunId) (outcome : Outcome) :
    ({ controller with queue := messages } : Controller).deliver run outcome =
      { controller.deliver run outcome with queue := messages } := by
  simp only [deliver]
  split <;> rfl

/-- Receiving as long as a run is in flight is a row of moves, which empties the queue
unless the run ends. -/
theorem receiveFrom_eq_moveAll? (executor : Executor) (controller : Controller)
    (messages : List (RunId × Outcome)) :
    (∃ count,
      ({ controller with queue := messages } : Controller).moveAll? executor
        (List.replicate count .receive) = some (controller.receiveFrom messages)) ∧
    ((controller.receiveFrom messages).state.isRunning = true →
      (controller.receiveFrom messages).queue = []) := by
  induction messages generalizing controller with
  | nil => exact ⟨⟨0, rfl⟩, fun _ => rfl⟩
  | cons message messages induction =>
      obtain ⟨run, outcome⟩ := message
      cases running : controller.state.isRunning with
      | false =>
          have unchanged :
              controller.receiveFrom ((run, outcome) :: messages) =
                { controller with queue := (run, outcome) :: messages } := by
            simp [receiveFrom, running]
          rw [unchanged]
          refine ⟨⟨0, rfl⟩, ?_⟩
          intro stillRunning
          cases running.symm.trans stillRunning
      | true =>
          have delivered :
              controller.receiveFrom ((run, outcome) :: messages) =
                (controller.deliver run outcome).receiveFrom messages := by
            simp [receiveFrom, running]
          obtain ⟨⟨count, moved⟩, emptied⟩ :=
            induction (controller.deliver run outcome)
          rw [delivered]
          refine ⟨⟨count + 1, ?_⟩, emptied⟩
          apply moveAll?_cons_eq_some_iff.mpr
          refine ⟨_, ?_, moved⟩
          change ({ controller with queue := (run, outcome) :: messages } :
            Controller).receive? = _
          have stillRunning : ({ controller with
              queue := (run, outcome) :: messages } :
                Controller).state.isRunning = true :=
            running
          simp only [receive?, stillRunning, if_true]
          rw [← deliver_withQueue]

theorem poll_eq_moveAll? (executor : Executor) (controller : Controller) :
    ∃ moves : List Move,
      (∀ move ∈ moves, move = .receive ∨ move = .join) ∧
        controller.moveAll? executor moves = some controller.poll := by
  obtain ⟨⟨count, received⟩, _⟩ :=
    receiveFrom_eq_moveAll? executor controller controller.queue
  have receives : ∀ (count : Nat), ∀ move ∈ List.replicate count Move.receive,
      move = .receive ∨ move = .join :=
    fun _ _ member => .inl (List.eq_of_mem_replicate member)
  cases joined : (controller.receiveFrom controller.queue).join? with
  | none =>
      refine ⟨List.replicate count .receive, receives count, ?_⟩
      simpa only [poll, joined] using received
  | some next =>
      obtain ⟨⟨more, receivedMore⟩, _⟩ :=
        receiveFrom_eq_moveAll? executor next next.queue
      refine ⟨List.replicate count .receive ++ .join ::
        List.replicate more .receive, ?_, ?_⟩
      · intro move member
        rcases List.mem_append.mp member with first | second
        · exact receives count move first
        · rcases List.mem_cons.mp second with rfl | last
          · exact .inr rfl
          · exact receives more move last
      · apply moveAll?_append received
        apply moveAll?_cons_eq_some_iff.mpr
        refine ⟨next, joined, ?_⟩
        simpa only [poll, joined] using receivedMore

/-- With an empty queue, the task in flight can only have crashed. -/
theorem Executes.crashed_of_empty (executes : controller.Executes task)
    (coherent : Coherent grammar controller) (ended : task.phase.isEnd = true)
    (empty : controller.queue = []) :
    controller.inFlight = some task.run ∧
      ∃ crash, task.phase = .crashed crash := by
  have unsent : task.phase.hasSent = false := by
    by_contra sent
    obtain ⟨outcome, queued⟩ := executes.queued (by simpa using sent)
    rw [empty] at queued
    cases queued
  have crashed : ∃ crash, task.phase = .crashed crash := by
    cases phase : task.phase with
    | crashed crash => exact ⟨crash, rfl⟩
    | cancelled => exact (coherent.not_cancelled executes phase).elim
    | finished => simp [phase, RunTask.Phase.hasSent] at unsent
    | sent => simp [phase, RunTask.Phase.hasSent] at unsent
    | spawned => simp [phase, RunTask.Phase.isEnd] at ended
    | waiting => simp [phase, RunTask.Phase.isEnd] at ended
    | working ending => simp [phase, RunTask.Phase.isEnd] at ended
  rcases executes.held with held | ⟨_, finished⟩
  · exact ⟨held, crashed⟩
  · rw [finished] at unsent
    cases unsent

theorem Executes.poll_stopped (executes : controller.Executes task)
    (coherent : Coherent grammar controller) (executor : Executor)
    (ended : task.phase.isEnd = true) :
    controller.poll.state.isRunning = false := by
  obtain ⟨⟨count, received⟩, emptied⟩ :=
    receiveFrom_eq_moveAll? executor controller controller.queue
  have coherentAfter := coherent.moveAll? received
  rcases executes.persists_all coherent ended received with stopped | executesAfter
  · have noJoin : (controller.receiveFrom controller.queue).join? = none := by
      simp [join?, stopped]
    simp only [poll, noJoin]
    exact stopped
  · have empty := emptied (coherentAfter.isRunning_of_executes executesAfter)
    obtain ⟨held, crash, crashed⟩ :=
      executesAfter.crashed_of_empty coherentAfter ended empty
    have abandoned : Moves executor (controller.receiveFrom controller.queue) .join _ :=
      .abandon executesAfter held crashed
    have joined := coherentAfter.move?_eq_some_iff.mpr abandoned
    simp only [move?] at joined
    simp only [poll, joined]
    rfl

theorem Executes.concludes (executes : controller.Executes task)
    (coherent : Coherent grammar controller) (executor : Executor)
    (ended : task.phase.isEnd = true) :
    Concludes executor controller task where
  poll := ⟨executes.poll_stopped coherent executor ended,
    poll_eq_moveAll? executor controller⟩
  progress := by
    intro moves later moved running
    have coherentLater := coherent.moveAll? moved
    rcases executes.persists_all coherent ended moved with stopped | executesLater
    · rw [stopped] at running
      cases running
    · exact executesLater.can_wait coherentLater ended
  bounded := fun moves _ moved =>
    executes.taken_all_le coherent ended (moves.countP Move.sends) (.inr le_rfl) moved
  bounded_of_finished := by
    intro finished moves later moved
    have queued := executes.queued (by rw [finished]; rfl)
    exact executes.taken_all_le coherent ended 0 (.inl queued) moved

/-- A task in flight that has not ended can take a step, unless the executor is at work
for ever. -/
theorem Executes.can_advance (executes : controller.Executes task)
    (executor : Executor) (ends : task.phase ≠ .working .never) :
    task.phase.isEnd = true ∨
      ∃ step phase, RunTask.Advances task
          (controller.performed executor task step).2 step phase ∧
        phase.remaining < task.phase.remaining := by
  cases phase : task.phase with
  | spawned =>
      exact .inr ⟨.start, .waiting, .start phase executes.live, by decide⟩
  | waiting =>
      exact .inr ⟨.proceed, .working _, .proceed phase, Nat.lt_succ_self 2⟩
  | working ending =>
      cases ending with
      | reports outcome =>
          exact .inr ⟨.send, .sent, .send phase, Nat.lt_succ_self 1⟩
      | crashes crash =>
          exact .inr ⟨.crash, .crashed crash, .crash phase, Nat.zero_lt_succ 1⟩
      | never => exact (ends phase).elim
  | sent => exact .inr ⟨.finish, .finished, .finish phase, by decide⟩
  | finished => exact .inl rfl
  | crashed crash => exact .inl rfl
  | cancelled => exact .inl rfl

/-- Something holds of controllers that moves keep, and with which the executor is not at
work for ever. -/
structure Terminating (grammar : Grammar) (executor : Executor)
    (holds : Controller → Prop) : Prop where
  moves : ∀ {controller next move}, Coherent grammar controller → holds controller →
    Moves executor controller move next → holds next
  ends : ∀ {controller task}, Coherent grammar controller → holds controller →
    controller.Executes task → task.phase ≠ .working .never

theorem Terminating.can_end {holds : Controller → Prop}
    (terminating : Terminating grammar executor holds)
    (coherent : Coherent grammar controller) (kept : holds controller)
    (executes : controller.Executes task) :
    ∃ moves later ended, controller.moveAll? executor moves = some later ∧
      later.Executes ended ∧ ended.phase.isEnd = true := by
  induction remaining : task.phase.remaining using Nat.strong_induction_on
    generalizing controller task with
  | _ remaining induction =>
    rcases executes.can_advance executor (terminating.ends coherent kept executes) with
      ended | ⟨step, phase, advances, fewer⟩
    · exact ⟨[], controller, task, rfl, executes, ended⟩
    · have moves := Moves.advance executes.member advances
      obtain ⟨rest, later, ended, moved, executesLater, isEnd⟩ :=
        induction _ (remaining ▸ fewer) (coherent.moves moves)
          (terminating.moves coherent kept moves)
          (executes.advance_self coherent.distinct advances) rfl
      refine ⟨.task task.run step :: rest, later, ended, ?_, executesLater, isEnd⟩
      exact moveAll?_cons_eq_some_iff.mpr
        ⟨_, coherent.move?_eq_some_iff.mpr moves, moved⟩

theorem Terminating.can_stop {holds : Controller → Prop}
    (terminating : Terminating grammar executor holds)
    (coherent : Coherent grammar controller) (kept : holds controller) :
    ∃ moves later, controller.moveAll? executor moves = some later ∧
      later.state.isRunning = false := by
  cases running : controller.state.isRunning with
  | false => exact ⟨[], controller, rfl, running⟩
  | true =>
      obtain ⟨task, executes⟩ := coherent.running running
      obtain ⟨moves, middle, ended, moved, executesMiddle, isEnd⟩ :=
        terminating.can_end coherent kept executes
      have coherentMiddle := coherent.moveAll? moved
      obtain ⟨looks, _, looked⟩ := poll_eq_moveAll? executor middle
      exact ⟨moves ++ looks, middle.poll, moveAll?_append moved looked,
        executesMiddle.poll_stopped coherentMiddle executor isEnd⟩

theorem Coherent.outstanding_le_one (coherent : Coherent grammar controller) :
    (controller.tasks.filter RunTask.isOutstanding).length ≤ 1 := by
  have held : ∀ task ∈ controller.tasks.filter RunTask.isOutstanding,
      controller.inFlight = some task.run := by
    intro task member
    obtain ⟨taskMember, outstanding⟩ := List.mem_filter.mp member
    obtain ⟨live, pending⟩ := Bool.and_eq_true_iff.mp outstanding
    exact coherent.pending task taskMember (by simpa using live) pending
  have distinct : (controller.tasks.filter RunTask.isOutstanding).Nodup :=
    (List.Nodup.of_map RunTask.run coherent.distinct).filter _
  match outstanding : controller.tasks.filter RunTask.isOutstanding with
  | [] => exact Nat.zero_le 1
  | [_] => exact le_rfl
  | first :: second :: rest =>
      rw [outstanding] at held distinct
      have inTasks : ∀ task ∈ first :: second :: rest, task ∈ controller.tasks := by
        rw [← outstanding]
        exact fun task member => List.mem_of_mem_filter member
      have sameRun : some first.run = some second.run :=
        (held first (by simp)).symm.trans (held second (by simp))
      have same : first = second :=
        coherent.distinct.eq_of_run (inTasks first (by simp))
          (inTasks second (by simp)) (Option.some.inj sameRun)
      simp [same] at distinct

/-- No completion is lost, and no run gets stuck.  Without a run in flight no task is
held.  With one, its task is held or its outcome is in the queue.  At most one task is
outstanding.  And once the task in flight has ended, waiting ends the run. -/
theorem completion_never_lost {system : System}
    (reached : Reaches executor (Controller.new grammar system) controller) :
    (controller.state.isRunning = false → controller.inFlight = none) ∧
    (controller.state.isRunning = true →
      ∃ task ∈ controller.tasks, controller.machine.currentRun = some task.run ∧
        (controller.inFlight = some task.run ∨
          controller.inFlight = none ∧
            ∃ outcome, (task.run, outcome) ∈ controller.queue)) ∧
    (controller.tasks.filter RunTask.isOutstanding).length ≤ 1 ∧
    (∀ task ∈ controller.tasks, controller.state.isRunning = true →
      controller.machine.currentRun = some task.run → task.phase.isEnd = true →
        Concludes executor controller task) := by
  have coherent := Coherent.reaches reached
  refine ⟨coherent.idle, ?_, coherent.outstanding_le_one, ?_⟩
  · intro running
    obtain ⟨task, executes⟩ := coherent.running running
    refine ⟨task, executes.member, executes.current, ?_⟩
    rcases executes.held with held | ⟨released, finished⟩
    · exact .inl held
    · exact .inr ⟨released, executes.queued (by rw [finished]; rfl)⟩
  · intro task member running current ended
    obtain ⟨inFlight, executes⟩ := coherent.running running
    have sameRun : some task.run = some inFlight.run :=
      current.symm.trans executes.current
    have same := coherent.eq_of_executes executes member (Option.some.inj sameRun)
    rw [same] at ended ⊢
    exact executes.concludes coherent executor ended

def echoing (queue : List (RunId × Outcome)) (inFlight : Option RunId)
    (phase : RunTask.Phase) : Controller where
  machine := (RunMachine.new fun _ => none).begun 0 ['x']
  queue := queue
  inFlight := inFlight
  tasks := [⟨0, 1, ['x'], phase, false⟩]
  nextRun := 1
  system := System.idle ⟨[], []⟩

/-- What happens while someone waits for the first run and then gives up. -/
theorem Usage.Follows.echoing
    (moved : (echoing [] (some 0) .spawned).moveAll? .echo moves = some later)
    (running : later.state.isRunning = true) :
    Usage.Follows .echo
      ⟨Controller.new (fun _ => none) (System.idle ⟨[], []⟩), false⟩
      [⟨.request (.requestRun ['x'] 1), .accepted true, .running⟩] ⟨later, false⟩ := by
  have served : Usage.Step .echo
      ⟨Controller.new (fun _ => none) (System.idle ⟨[], []⟩), false⟩
      (some ⟨.request (.requestRun ['x'] 1), .accepted true, .running⟩)
      ⟨Controller.echoing [] (some 0) .spawned, false⟩ :=
    .serve _ (.requestRun ['x'] 1)
  have waited := Usage.Follows.of_moveAll? moved
  have givenUp : Usage.Follows .echo ⟨later, true⟩ [] ⟨later, false⟩ :=
    .silently (.giveUp running) (.refl _)
  exact (Usage.Follows.returning served).trans
    (.silently (.wait _) (waited.trans givenUp))

/-- A run whose task was joined before its outcome was received, by a call for the next
completion that was then given up. -/
theorem completion_never_lost_released :
    Reaches .echo (Controller.new (fun _ => none) (System.idle ⟨[], []⟩))
        (echoing [(0, .ok (.success ['x'] 0))] none .finished) ∧
      Concludes .echo (echoing [(0, .ok (.success ['x'] 0))] none .finished)
        ⟨0, 1, ['x'], .finished, false⟩ := by
  have moved : (echoing [] (some 0) .spawned).moveAll? .echo
      [.task 0 .start, .task 0 .proceed, .task 0 .send, .task 0 .finish, .join] =
        some (echoing [(0, .ok (.success ['x'] 0))] none .finished) := rfl
  have reached : Reaches .echo (Controller.new (fun _ => none) (System.idle ⟨[], []⟩))
      (echoing [(0, .ok (.success ['x'] 0))] none .finished) :=
    ⟨_, false, .echoing moved rfl⟩
  exact ⟨reached,
    (completion_never_lost reached).2.2.2 _ List.mem_cons_self rfl rfl rfl⟩

end Controller

end ScriptDesk

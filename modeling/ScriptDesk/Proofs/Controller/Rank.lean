import Mathlib.Data.List.TakeWhile
import ScriptDesk.Proofs.Controller.Usage

/-!
# The rank of waiting

`ahead` counts the outcomes of other runs that will be received before the one of
the run in flight.  Taking an outcome from the queue lowers it.  Sending raises
it by at most one, and by nothing once the outcome of the run in flight is in
the queue.  So the rank bounds what is taken while someone waits.
-/

namespace ScriptDesk

namespace Controller

/-- Makes a row of moves, if all of them are possible. -/
def moveAll? (executor : Executor) (controller : Controller) :
    List Move → Option Controller
  | [] => some controller
  | move :: moves => (controller.move? executor move).bind (moveAll? executor · moves)

/-- How many outcomes of other runs stand in the queue before the one of this run;
all of them, if that one is not in the queue. -/
def ahead (controller : Controller) (run : RunId) : Nat :=
  (controller.queue.takeWhile fun message => message.1 ≠ run).length

/-- How many outcomes a row of moves takes from the queue.  One is taken by receiving, and
all that are left by giving up a run. -/
def taken (executor : Executor) (controller : Controller) : List Move → Nat
  | [] => 0
  | move :: moves =>
    match controller.move? executor move with
    | some next =>
      controller.queue.length - next.queue.length + next.taken executor moves
    | none => 0

def Move.sends : Move → Bool
  | .task _ .send => true
  | _ => false

variable {grammar : Grammar} {executor : Executor}
variable {controller next later : Controller} {task : RunTask} {move : Move}
variable {moves : List Move}

theorem moveAll?_cons_eq_some_iff :
    controller.moveAll? executor (move :: moves) = some later ↔
      ∃ next, controller.move? executor move = some next ∧
        next.moveAll? executor moves = some later :=
  Option.bind_eq_some_iff

theorem taken_cons (first : controller.move? executor move = some next) :
    controller.taken executor (move :: moves) =
      controller.queue.length - next.queue.length + next.taken executor moves := by
  simp only [taken, first]

theorem moveAll?_append {earlier : List Move} {middle : Controller}
    (first : controller.moveAll? executor earlier = some middle)
    (second : middle.moveAll? executor moves = some later) :
    controller.moveAll? executor (earlier ++ moves) = some later := by
  induction earlier generalizing controller with
  | nil =>
      cases first
      exact second
  | cons move earlier induction =>
      obtain ⟨next, moved, rest⟩ := moveAll?_cons_eq_some_iff.mp first
      exact moveAll?_cons_eq_some_iff.mpr ⟨next, moved, induction rest⟩

theorem moveAll?_concat {middle : Controller}
    (moved : controller.moveAll? executor moves = some middle)
    (movedOn : middle.move? executor move = some next) :
    controller.moveAll? executor (moves ++ [move]) = some next :=
  moveAll?_append moved (moveAll?_cons_eq_some_iff.mpr ⟨next, movedOn, rfl⟩)

theorem Usage.Follows.of_moveAll?
    (moved : controller.moveAll? executor moves = some later) :
    Usage.Follows executor ⟨controller, true⟩ [] ⟨later, true⟩ := by
  induction moves generalizing controller with
  | nil =>
      cases moved
      exact .refl _
  | cons move moves induction =>
      obtain ⟨next, first, rest⟩ := moveAll?_cons_eq_some_iff.mp moved
      exact .silently (.poll first) (induction rest)

theorem Coherent.moveAll? (coherent : Coherent grammar controller)
    (moved : controller.moveAll? executor moves = some later) :
    Coherent grammar later := by
  induction moves generalizing controller with
  | nil =>
      cases moved
      exact coherent
  | cons move moves induction =>
      obtain ⟨next, first, rest⟩ := moveAll?_cons_eq_some_iff.mp moved
      exact induction (coherent.move? first) rest

/-- What every move of a coherent controller preserves is preserved by all of them. -/
theorem Coherent.preserved {holds : Controller → Prop}
    (preserves : ∀ {controller next move}, Coherent grammar controller → holds controller →
      Moves executor controller move next → holds next)
    (coherent : Coherent grammar controller) (held : holds controller)
    (moved : controller.moveAll? executor moves = some later) : holds later := by
  induction moves generalizing controller with
  | nil =>
      cases moved
      exact held
  | cons move moves induction =>
      obtain ⟨next, first, rest⟩ := moveAll?_cons_eq_some_iff.mp moved
      have heldNext := preserves coherent held (coherent.move?_eq_some_iff.mp first)
      exact induction (coherent.move? first) heldNext rest

/-- While the run is in flight, a task that has ended stays as it is. -/
theorem Executes.persists (executes : controller.Executes task)
    (coherent : Coherent grammar controller) (ended : task.phase.isEnd = true)
    (moves : Moves executor controller move next) :
    next.state.isRunning = false ∨ next.Executes task := by
  cases moves with
  | @advance other step phase member advances =>
      right
      apply executes.advance_other executor step phase coherent.distinct member
      intro same
      have going := advances.going
      rw [coherent.eq_of_executes executes member same.symm, ended] at going
      cases going
  | @drop current run outcome rest executesNow queue different =>
      right
      rw [coherent.eq_of_executes_both executes executesNow] at different
      exact executes.drop queue different
  | @complete current outcome rest executesNow queue =>
      exact .inl (RunState.isRunning_ofOutcome _ _)
  | @release current executesNow held finished =>
      right
      rw [coherent.eq_of_executes_both executes executesNow] at finished
      exact executes.release finished
  | abandon => exact .inl rfl

theorem length_queue_advanced (executor : Executor) (controller : Controller)
    (other : RunTask) (step : TaskStep) (phase : RunTask.Phase) :
    controller.queue.length - (controller.advanced executor other step phase).queue.length =
      0 := by
  simp [advanced]

theorem length_queue_cons {message : RunId × Outcome} {rest : List (RunId × Outcome)}
    (queue : controller.queue = message :: rest) :
    controller.queue.length - rest.length = 1 := by
  rw [queue, List.length_cons, Nat.add_sub_cancel_left]

/-- Only tasks go on once no run is in flight. -/
theorem Coherent.stopped_moves (coherent : Coherent grammar controller)
    (stopped : controller.state.isRunning = false)
    (moves : Moves executor controller move next) :
    controller.queue.length - next.queue.length = 0 ∧ next.state.isRunning = false := by
  have not_running : ∀ {task : RunTask}, ¬ controller.Executes task := by
    intro task executes
    rw [coherent.isRunning_of_executes executes] at stopped
    cases stopped
  cases moves with
  | @advance other step phase =>
      exact ⟨length_queue_advanced executor controller other step phase, stopped⟩
  | drop executes => exact (not_running executes).elim
  | complete executes => exact (not_running executes).elim
  | release executes => exact (not_running executes).elim
  | abandon executes => exact (not_running executes).elim

theorem Coherent.stopped_moveAll? (coherent : Coherent grammar controller)
    (stopped : controller.state.isRunning = false)
    (moved : controller.moveAll? executor moves = some later) :
    controller.taken executor moves = 0 ∧ later.state.isRunning = false := by
  induction moves generalizing controller with
  | nil =>
      cases moved
      exact ⟨rfl, stopped⟩
  | cons move moves induction =>
      obtain ⟨next, first, rest⟩ := moveAll?_cons_eq_some_iff.mp moved
      obtain ⟨takenNow, stoppedNext⟩ :=
        coherent.stopped_moves stopped (coherent.move?_eq_some_iff.mp first)
      obtain ⟨takenLater, stoppedLater⟩ :=
        induction (coherent.move? first) stoppedNext rest
      rw [taken_cons first, takenNow, takenLater]
      exact ⟨rfl, stoppedLater⟩

theorem Executes.persists_all (executes : controller.Executes task)
    (coherent : Coherent grammar controller) (ended : task.phase.isEnd = true)
    (moved : controller.moveAll? executor moves = some later) :
    later.state.isRunning = false ∨ later.Executes task := by
  induction moves generalizing controller with
  | nil =>
      cases moved
      exact .inr executes
  | cons move moves induction =>
      obtain ⟨next, first, rest⟩ := moveAll?_cons_eq_some_iff.mp moved
      have coherentNext := coherent.move? first
      rcases executes.persists coherent ended
          (coherent.move?_eq_some_iff.mp first) with stopped | executesNext
      · exact .inl (coherentNext.stopped_moveAll? stopped rest).2
      · exact induction executesNext coherentNext rest

theorem ahead_of_drop {run other : RunId} {outcome : Outcome}
    {rest : List (RunId × Outcome)}
    (queue : controller.queue = (other, outcome) :: rest)
    (different : other ≠ run) :
    controller.ahead run =
      ({ controller with queue := rest } : Controller).ahead run + 1 := by
  simp [ahead, queue, different]

theorem ahead_advanced_le (executor : Executor) (controller : Controller)
    (run : RunId) (other : RunTask) (step : TaskStep) (phase : RunTask.Phase) :
    (controller.advanced executor other step phase).ahead run ≤
      controller.ahead run + [Move.task other.run step].countP Move.sends := by
  have added : (other.sent? step).toList.length ≤
      [Move.task other.run step].countP Move.sends := by
    cases step with
    | send => cases other.sent? .send <;> simp [Move.sends]
    | _ => simp [RunTask.sent?]
  have fewer := (List.takeWhile_sublist
    (fun message : RunId × Outcome => decide (message.1 ≠ run))
    (l := (other.sent? step).toList.map fun outcome => (other.run, outcome))).length_le
  rw [List.length_map] at fewer
  simp only [ahead, advanced, List.takeWhile_append]
  split
  case isTrue all =>
    rw [List.length_append]
    omega
  case isFalse => omega

theorem ahead_advanced_of_queued {run : RunId} {outcome : Outcome}
    (queued : (run, outcome) ∈ controller.queue) (other : RunTask)
    (step : TaskStep) (phase : RunTask.Phase) :
    (controller.advanced executor other step phase).ahead run =
      controller.ahead run := by
  simp only [ahead, advanced, List.takeWhile_append]
  split
  case isTrue all =>
    have whole := (List.takeWhile_prefix _).eq_of_length all
    have different := List.takeWhile_eq_self_iff.mp whole _ queued
    simp at different
  case isFalse => rfl

theorem ahead_of_others {run : RunId}
    (others : ∀ message ∈ controller.queue, message.1 ≠ run) :
    controller.ahead run = controller.queue.length := by
  have whole : controller.queue.takeWhile (fun message => message.1 ≠ run) =
      controller.queue := by
    rw [List.takeWhile_eq_self_iff]
    intro message member
    simpa using others message member
  simp only [ahead, whole]

/-- If the run in flight goes on, a move raises the rank by at most what it sends, and
lowers it by what it takes. -/
theorem Executes.rank_le (executes : controller.Executes task)
    (coherent : Coherent grammar controller)
    (moves : Moves executor controller move next)
    (running : next.state.isRunning = true) :
    next.ahead task.run + (controller.queue.length - next.queue.length) ≤
      controller.ahead task.run + [move].countP Move.sends := by
  cases moves with
  | @advance other step phase member advances =>
      rw [length_queue_advanced]
      exact ahead_advanced_le executor controller task.run other step phase
  | @drop current run outcome rest executesNow queue different =>
      rw [coherent.eq_of_executes_both executes executesNow] at different
      have takesOne := length_queue_cons queue
      have rank := ahead_of_drop queue different
      dsimp only
      omega
  | @complete current outcome rest executesNow queue =>
      have stopped :=
        RunState.isRunning_ofOutcome controller.machine.grammar outcome
      cases running.symm.trans stopped
  | release => simp [ahead]
  | abandon => cases running

/-- Once the outcome of the run in flight is in the queue, sending does not raise the
rank. -/
theorem Executes.rank_le_of_queued (executes : controller.Executes task)
    (coherent : Coherent grammar controller)
    (moves : Moves executor controller move next)
    (running : next.state.isRunning = true) {outcome : Outcome}
    (queued : (task.run, outcome) ∈ controller.queue) :
    next.ahead task.run + (controller.queue.length - next.queue.length) ≤
        controller.ahead task.run ∧
      (task.run, outcome) ∈ next.queue := by
  cases moves with
  | @advance other step phase member advances =>
      refine ⟨?_, List.mem_append_left _ queued⟩
      rw [length_queue_advanced, ahead_advanced_of_queued queued other step phase]
      exact le_rfl
  | @drop current run dropped rest executesNow queue different =>
      rw [coherent.eq_of_executes_both executes executesNow] at different
      constructor
      · have takesOne := length_queue_cons queue
        have rank := ahead_of_drop queue different
        dsimp only
        omega
      · rw [queue] at queued
        rcases List.mem_cons.mp queued with first | later
        · cases first
          exact (different rfl).elim
        · exact later
  | @complete current outcome rest executesNow queue =>
      have stopped :=
        RunState.isRunning_ofOutcome controller.machine.grammar outcome
      cases running.symm.trans stopped
  | release => exact ⟨by simp [ahead], queued⟩
  | abandon => cases running

/-- A single move takes at most one outcome more than those that stand ahead. -/
theorem Executes.taken_le (executes : controller.Executes task)
    (coherent : Coherent grammar controller)
    (moves : Moves executor controller move next) :
    controller.queue.length - next.queue.length ≤ controller.ahead task.run + 1 := by
  cases moves with
  | @advance other step phase member advances =>
      rw [length_queue_advanced]
      exact Nat.zero_le _
  | drop executesNow queue =>
      exact (length_queue_cons queue).le.trans (Nat.le_add_left 1 _)
  | complete executesNow queue =>
      exact (length_queue_cons queue).le.trans (Nat.le_add_left 1 _)
  | release => simp
  | @abandon current crash executesNow held crashed =>
      rw [coherent.eq_of_executes_both executes executesNow] at crashed
      rw [ahead_of_others (coherent.not_queued_of_crashed executes.member crashed)]
      exact (Nat.sub_le _ _).trans (Nat.le_succ _)

/-- The bound for both cases: nothing comes in ahead of an outcome in the queue, and
otherwise at most what is sent comes in ahead. -/
theorem Executes.taken_all_le (executes : controller.Executes task)
    (coherent : Coherent grammar controller) (ended : task.phase.isEnd = true)
    (added : Nat)
    (limited : (∃ outcome, (task.run, outcome) ∈ controller.queue) ∨
      moves.countP Move.sends ≤ added)
    (moved : controller.moveAll? executor moves = some later) :
    controller.taken executor moves ≤ controller.ahead task.run + added + 1 := by
  induction moves generalizing controller added with
  | nil => exact Nat.zero_le _
  | cons move moves induction =>
      obtain ⟨next, first, rest⟩ := moveAll?_cons_eq_some_iff.mp moved
      have firstMoves := coherent.move?_eq_some_iff.mp first
      have coherentNext := coherent.move? first
      rw [taken_cons first]
      rcases executes.persists coherent ended firstMoves with stopped | executesNext
      · have takenLater := (coherentNext.stopped_moveAll? stopped rest).1
        have takenNow := executes.taken_le coherent firstMoves
        omega
      · have running := coherentNext.isRunning_of_executes executesNext
        rcases limited with ⟨outcome, queued⟩ | few
        · obtain ⟨rank, queuedNext⟩ :=
            executes.rank_le_of_queued coherent firstMoves running queued
          have bound := induction executesNext coherentNext added
            (.inl ⟨outcome, queuedNext⟩) rest
          omega
        · have rank := executes.rank_le coherent firstMoves running
          have sends : (move :: moves).countP Move.sends =
              [move].countP Move.sends + moves.countP Move.sends :=
            (List.countP_append : ([move] ++ moves).countP Move.sends = _)
          have bound := induction executesNext coherentNext
            (added - [move].countP Move.sends) (.inr (by omega)) rest
          omega

end Controller

end ScriptDesk

import ScriptDesk.Proofs.Controller.Settling
import ScriptDesk.Proofs.Session.LineReading
import ScriptDesk.Proofs.Session.Timing

/-!
# Feeding takes turns

A session that is fed is one of the sessions that the schedules describe: to read
lines, to let the tasks go as far as they can, and to take every step of waiting
are turns one after the other.  The schedule reads the lines of the whole input,
wherever its chunks end, so that what holds along every schedule holds of it.
-/

namespace ScriptDesk

namespace Interactive

variable {setting : Setting} {session : Session} {phase : Phase}
variable {before middle after : Interactive} {lines : List Octets}

theorem linesRead_append (earlier later : List Turn) :
    linesRead (earlier ++ later) = linesRead earlier ++ linesRead later := by
  induction earlier with
  | nil => rfl
  | cons turn earlier induction =>
      cases turn with
      | line octets => exact congrArg (octets :: ·) induction
      | endOfInput => exact induction
      | move move => exact induction

theorem follow?_append {earlier later : List Turn}
    (followed : before.follow? setting earlier = some middle)
    (followedOn : middle.follow? setting later = some after) :
    before.follow? setting (earlier ++ later) = some after := by
  induction earlier generalizing before with
  | nil =>
      cases followed
      exact followedOn
  | cons turn earlier induction =>
      obtain ⟨next, taken, rest⟩ := Option.bind_eq_some_iff.mp followed
      exact Option.bind_eq_some_iff.mpr ⟨next, taken, induction rest⟩

/-- The phase behind the end of the input: a run in flight is waited for. -/
def restingPhase (app : App) : Phase :=
  if app.state.isRunning then .closing else .ended

theorem restingPhase_ne_reading (app : App) : restingPhase app ≠ .reading := by
  unfold restingPhase
  split <;> exact nofun

/-- A schedule that ends the input once, when all lines have been read, and reads no more. -/
theorem Reads.of_closed {turns later : List Turn} (never : Turn.endOfInput ∉ turns)
    (all : linesRead turns = lines) (neverAgain : Turn.endOfInput ∉ later)
    (nothing : linesRead later = []) : Reads lines (turns ++ .endOfInput :: later) where
  inOrder := by
    have read : linesRead (turns ++ .endOfInput :: later) = lines := by
      rw [linesRead_append, all]
      exact (congrArg (lines ++ ·) nothing).trans (List.append_nil lines)
    exact ⟨[], (List.append_nil _).trans read⟩
  complete := by
    intro before after same
    obtain ⟨rfl, -, rfl⟩ := (List.append_cons_inj_of_notMem never neverAgain).mp same
    exact all

/-- A session that has stopped reading reads no more. -/
theorem Follows.linesRead_eq_nil {turns : List Turn} {trace : List Dispatch}
    (follows : Follows setting before turns trace after) (closed : before.phase ≠ .reading) :
    linesRead turns = [] ∧ after.phase ≠ .reading := by
  induction follows with
  | nil => exact ⟨rfl, closed⟩
  | cons first later induction =>
      have further := induction (first.asked_eq_nil closed).2
      cases first with
      | line => exact (closed rfl).elim
      | illFormed => exact (closed rfl).elim
      | _ => exact further

/-- A schedule that leads from one point of a session to another, before the end of the
input.  It reads the lines in their order, and all of them if the session still reads. -/
structure Leads (setting : Setting) (lines : List Octets) (before after : Interactive)
    (turns : List Turn) : Prop where
  followed : before.follow? setting turns = some after
  never : Turn.endOfInput ∉ turns
  inOrder : linesRead turns <+: lines
  complete : after.phase = .reading → linesRead turns = lines

/-- Some schedule leads from one point of a session to another. -/
def Reaches (setting : Setting) (lines : List Octets) (before after : Interactive) : Prop :=
  ∃ turns, Leads setting lines before after turns

namespace Reaches

theorem refl (setting : Setting) (interactive : Interactive) :
    Reaches setting [] interactive interactive :=
  ⟨[], rfl, List.not_mem_nil, List.prefix_refl _, fun _ => rfl⟩

/-- A session that has stopped reading leaves the lines that come. -/
theorem of_closed (setting : Setting) (lines : List Octets) (closed : before.phase ≠ .reading) :
    Reaches setting lines before before :=
  ⟨[], rfl, List.not_mem_nil, List.nil_prefix, fun reading => (closed reading).elim⟩

theorem of_turn? {turn : Turn} (taken : before.turn? setting turn = some after)
    (other : turn ≠ .endOfInput) : Reaches setting (linesRead [turn]) before after := by
  have followed : before.follow? setting [turn] = some after := by
    simp only [follow?, taken, Option.bind_some]
  have never : Turn.endOfInput ∉ [turn] := by
    rw [List.mem_singleton]
    exact other.symm
  exact ⟨[turn], followed, never, List.prefix_refl _, fun _ => rfl⟩

theorem trans {further : List Octets} (first : Reaches setting lines before middle)
    (second : Reaches setting further middle after) :
    Reaches setting (lines ++ further) before after := by
  obtain ⟨earlier, one⟩ := first
  obtain ⟨later, other⟩ := second
  obtain ⟨trace, follows⟩ := follow?_eq_some_iff.mp other.followed
  have never : Turn.endOfInput ∉ earlier ++ later := by
    rw [List.mem_append, not_or]
    exact ⟨one.never, other.never⟩
  refine ⟨earlier ++ later, follow?_append one.followed other.followed, never, ?inOrder,
    ?complete⟩
  case inOrder =>
    rw [linesRead_append]
    by_cases reading : middle.phase = .reading
    · rw [one.complete reading]
      exact (List.prefix_append_right_inj lines).mpr other.inOrder
    · rw [(follows.linesRead_eq_nil reading).1, List.append_nil]
      exact one.inOrder.trans (List.prefix_append lines further)
  case complete =>
    intro stillReading
    by_cases reading : middle.phase = .reading
    · rw [linesRead_append, one.complete reading, other.complete stillReading]
    · exact ((follows.linesRead_eq_nil reading).2 stillReading).elim

theorem of_move {move : Controller.Move} {dispatched : List Dispatch}
    (step : Step setting before (.move move) dispatched after) : Reaches setting [] before after :=
  of_turn? (turn?_eq_some_iff.mpr ⟨dispatched, step⟩) nofun

theorem of_works {controller : Controller} (going : phase = .reading ∨ phase = .closing)
    (works : session.app.controller.Works setting.executor controller) :
    Reaches setting [] ⟨session, phase⟩ ⟨session.withController controller, phase⟩ ∧
      controller.state = session.app.state := by
  obtain ⟨moves, tasks, moved⟩ := works
  induction moves generalizing session with
  | nil =>
      cases moved
      exact ⟨refl setting _, rfl⟩
  | cons move moves induction =>
      obtain ⟨next, first, rest⟩ := Controller.moveAll?_cons_eq_some_iff.mp moved
      obtain ⟨⟨run, step, rfl⟩, others⟩ := List.forall_mem_cons.mp tasks
      obtain ⟨task, taskPhase, -, -, rfl⟩ := Controller.taskStep?_eq_some_iff.mp first
      obtain ⟨reached, same⟩ := @induction (session.withController _) others rest
      exact ⟨(of_move (.wait going first rfl)).trans reached, same⟩

/-- To wait for the run in flight shows its end, if it comes. -/
theorem of_waits {controller : Controller} {moves : List Controller.Move}
    (going : phase = .reading ∨ phase = .closing)
    (waits : ∀ move ∈ moves, move = .receive ∨ move = .join)
    (moved : session.app.controller.moveAll? setting.executor moves = some controller) :
    Reaches setting [] ⟨session, phase⟩
      (if session.app.state.isRunning = true ∧ controller.state.isRunning = false then
        showFinished setting phase (session.withController controller)
      else ⟨session.withController controller, phase⟩) := by
  induction moves generalizing session with
  | nil =>
      cases moved
      have notLeft : ¬(session.app.state.isRunning = true ∧
          session.app.controller.state.isRunning = false) :=
        fun left => Bool.false_ne_true (left.2.symm.trans left.1)
      rw [if_neg notLeft]
      exact refl setting _
  | cons move moves induction =>
      obtain ⟨next, first, rest⟩ := Controller.moveAll?_cons_eq_some_iff.mp moved
      obtain ⟨wait, others⟩ := List.forall_mem_cons.mp waits
      have running : session.app.state.isRunning = true :=
        Controller.isRunning_of_wait wait first
      cases runs : next.state.isRunning with
      | true =>
          have notLeft : ¬(session.app.controller.state.isRunning = true ∧
              next.state.isRunning = false) := by
            rw [runs]
            exact fun left => Bool.false_ne_true left.2.symm
          have kept := (Controller.keptOrEnded_of_move? first).eq_of_not_left notLeft
          have further := @induction (session.withController next) others rest
          have stillRunning : (session.withController next).app.state.isRunning = true := runs
          simp only [running, stillRunning] at further ⊢
          exact (of_move (.wait going first kept)).trans further
      | false =>
          cases moves with
          | nil =>
              cases rest
              rw [if_pos ⟨running, runs⟩]
              exact of_move (.finish going first running runs)
          | cons move moves =>
              obtain ⟨last, second, -⟩ := Controller.moveAll?_cons_eq_some_iff.mp rest
              have stillRunning :=
                Controller.isRunning_of_wait (others move List.mem_cons_self) second
              exact (Bool.false_ne_true (runs.symm.trans stillRunning)).elim

end Reaches

end Interactive

namespace Feed

open Interactive (Reaches Reads follow?_append follow?_eq_some_iff)

variable (setting : Setting)

theorem reaches_readLine (interactive : Interactive) (line : Octets) :
    Reaches setting [line] interactive (tryTurn setting interactive (.line line)) := by
  unfold tryTurn
  cases taken : interactive.turn? setting (.line line) with
  | some next => exact .of_turn? taken nofun
  | none =>
      have closed : interactive.phase ≠ .reading := by
        intro reading
        simp [Interactive.turn?, reading] at taken
      exact .of_closed setting [line] closed

theorem reaches_readLines (interactive : Interactive) (lines : List Octets) :
    Reaches setting lines interactive (readLines setting interactive lines) := by
  induction lines generalizing interactive with
  | nil => exact .refl setting interactive
  | cons line lines induction =>
      exact (reaches_readLine setting interactive line).trans (induction _)

theorem reaches_wait (feed : Feed) :
    Reaches setting [] feed.interactive (feed.wait setting).interactive := by
  obtain ⟨⟨session, phase⟩, unread, permits⟩ := feed
  by_cases going : phase = .reading ∨ phase = .closing
  · have works : session.app.controller.Works setting.executor _ :=
      .settle setting.executor permits session.app.controller
    cases settles : session.app.controller.settle setting.executor permits with
    | mk settled remaining =>
        rw [settles] at works
        obtain ⟨worked, same⟩ := Reaches.of_works going works
        obtain ⟨moves, waits, polled⟩ := settled.poll_eq_moveAll? setting.executor
        have moved : (session.withController settled).app.controller.moveAll? setting.executor
            moves = some settled.poll := polled
        have waited := Reaches.of_waits going waits moved
        have state : (session.withController settled).app.state = session.app.state := same
        rw [state] at waited
        simp only [wait, if_pos going, settles]
        exact worked.trans waited
  · simp only [wait, if_neg going]
    exact .refl setting _

theorem unread_wait (feed : Feed) : (feed.wait setting).unread = feed.unread := by
  unfold wait
  simp only
  split <;> rfl

/-- What arrives is read up to its last line feed. -/
theorem reaches_take (feed : Feed) (arrival : Arrival) (single : 10 ∉ feed.unread) :
    Reaches setting ((splitLines (feed.unread ++ arrival.octets)).1.map withoutReturn)
        feed.interactive (feed.take setting arrival).interactive ∧
      (feed.take setting arrival).unread = (splitLines (feed.unread ++ arrival.octets)).2 := by
  cases arrival with
  | chunk octets =>
      cases split : splitLines (feed.unread ++ octets) with
      | mk lines unread =>
          have read := reaches_readLines setting feed.interactive (lines.map withoutReturn)
          have waited := read.trans (reaches_wait setting ⟨_, unread, feed.permits⟩)
          rw [List.append_nil] at waited
          simp only [take, Arrival.octets, split]
          exact ⟨waited, unread_wait setting _⟩
  | permit =>
      rw [Arrival.octets, List.append_nil, splitLines_of_not_mem single]
      exact ⟨reaches_wait setting { feed with permits := feed.permits + 1 }, unread_wait setting _⟩

theorem reaches_takeAll (arrivals : List Arrival) (feed : Feed) (single : 10 ∉ feed.unread) :
    Reaches setting ((splitLines (feed.unread ++ input arrivals)).1.map withoutReturn)
        feed.interactive (arrivals.foldl (take setting) feed).interactive ∧
      (arrivals.foldl (take setting) feed).unread =
        (splitLines (feed.unread ++ input arrivals)).2 := by
  induction arrivals generalizing feed with
  | nil =>
      rw [input, List.flatMap_nil, List.append_nil, splitLines_of_not_mem single]
      exact ⟨.refl setting _, rfl⟩
  | cons arrival arrivals induction =>
      obtain ⟨taken, unread⟩ := reaches_take setting feed arrival single
      have singleStill : 10 ∉ (feed.take setting arrival).unread := by
        rw [unread]
        exact not_mem_unread _
      obtain ⟨further, rest⟩ := induction (feed.take setting arrival) singleStill
      rw [unread] at further rest
      have parted : feed.unread ++ input (arrival :: arrivals) =
          feed.unread ++ arrival.octets ++ input arrivals := by
        rw [List.append_assoc]
        rfl
      rw [parted, splitLines_append, List.map_append]
      exact ⟨taken.trans further, rest⟩

/-- What is left of a line is read before the input ends. -/
theorem reads_close {before : Interactive} {feed : Feed} {lines : List Octets}
    (reached : Reaches setting lines before feed.interactive) :
    (∃ turns, Reads (lines ++ lastLine feed.unread) turns ∧
        before.follow? setting turns = some (feed.close setting).interactive) ∧
      (feed.close setting).interactive.phase ≠ .reading := by
  obtain ⟨turns, leads⟩ :=
    reached.trans (reaches_readLines setting feed.interactive (lastLine feed.unread))
  have closes : feed.close setting = wait setting ⟨tryTurn setting
      (readLines setting feed.interactive (lastLine feed.unread)) .endOfInput, [], feed.permits⟩ :=
    rfl
  rw [closes]
  generalize readLines setting feed.interactive (lastLine feed.unread) = last at leads
  obtain ⟨later, waits⟩ :=
    reaches_wait setting ⟨tryTurn setting last .endOfInput, [], feed.permits⟩
  have nothing := List.prefix_nil.mp waits.inOrder
  obtain ⟨trace, follows⟩ := follow?_eq_some_iff.mp waits.followed
  by_cases reading : last.phase = .reading
  · have taken : last.turn? setting .endOfInput = some (Interactive.endInput last.session) := by
      simp only [Interactive.turn?, if_pos reading]
    have ended : tryTurn setting last .endOfInput = Interactive.endInput last.session := by
      rw [tryTurn, taken, Option.getD_some]
    have closed : (Interactive.endInput last.session).phase ≠ .reading :=
      Interactive.restingPhase_ne_reading last.session.app
    rw [ended] at waits follows ⊢
    refine ⟨⟨turns ++ .endOfInput :: later, ?_, ?_⟩, (follows.linesRead_eq_nil closed).2⟩
    · exact .of_closed leads.never (leads.complete reading) waits.never nothing
    · exact follow?_append leads.followed (Option.bind_eq_some_iff.mpr ⟨_, taken, waits.followed⟩)
  · have refused : tryTurn setting last .endOfInput = last := by
      simp only [tryTurn, Interactive.turn?, if_neg reading, Option.getD_none]
    rw [refused] at waits follows ⊢
    have through := Reaches.trans ⟨turns, leads⟩ ⟨later, waits⟩
    rw [List.append_nil] at through
    obtain ⟨whole, leadsOn⟩ := through
    exact ⟨⟨whole, .of_open leadsOn.inOrder leadsOn.never, leadsOn.followed⟩,
      (follows.linesRead_eq_nil reading).2⟩

/-- A session that is fed takes the turns of a schedule that reads the lines of the whole
input, and does not wait for more. -/
theorem reads_run (session : Session) (arrivals : List Arrival) :
    (∃ turns, Reads (inputLines (input arrivals)) turns ∧
        (Interactive.start setting session).follow? setting turns =
          some (run setting session arrivals)) ∧
      (run setting session arrivals).phase ≠ .reading := by
  obtain ⟨taken, unread⟩ :=
    reaches_takeAll setting arrivals ⟨Interactive.start setting session, [], 0⟩ List.not_mem_nil
  have closed := reads_close setting taken
  rw [unread] at closed
  exact closed

end Feed

end ScriptDesk

import ScriptDesk.Proofs.Session.Feeding
import ScriptDesk.Proofs.Session.SingleRun

/-!
# The two drivers

An interactive session on a single line that asks for a run does what a single run does,
after it has drawn the first pane.  `Stage` says how far such a session has come: the run
has not been asked for, it is under way, or it is over.  Every turn leads from one stage to
another, with the moves that have been made since the run was started, so that a single run
with the same moves ends in the same way.  Moves that are made before the line is read
might as well be made after it.
-/

namespace ScriptDesk

namespace Writing

def ofStart (surroundings : Surroundings) (app : App) : List Writing :=
  [.notices app.notices,
    .paneOf surroundings
      (app.withRun surroundings (app.requested surroundings))]

/-- What the end of a run writes that a controller has brought to its end. -/
def ofEnd (surroundings : Surroundings) (app : App) (controller : Controller) : List Writing :=
  [.notices [], .paneOf surroundings (app.withRun surroundings controller)]

variable {surroundings : Surroundings} {app : App}

theorem paneOf_withRun_congr (surroundings : Surroundings) (app : App)
    {first second : Controller} (same : first.state = second.state) :
    paneOf surroundings (app.withRun surroundings first) =
      paneOf surroundings (app.withRun surroundings second) := by
  simp only [paneOf, App.statusLine, App.state, App.withRun, same]

theorem writings_run (surroundings : Surroundings) (idle : app.state.isRunning = false) :
    (Dispatch.mk app .run).writings surroundings = ofStart surroundings app := by
  have requested := Controller.requestRun_of_idle app.buffer.text
    (surroundings.taskNumber app.controller.nextRun) idle
  simp only [Dispatch.writings, App.update, App.react, App.reactToRun, ofStart, App.requested,
    requested]
  rfl

end Writing

open Writing (ofStart ofEnd)

/-- The session after a single run of an application, and what the run has written. -/
structure Ran (setting : Setting) (app : App) (controller : Controller) (before : Text)
    (last : Session) : Prop where
  app_eq : last.app = app.withRun setting.surroundings controller
  written : last.terminal.written = before ++ Writing.text setting.coloured
    (ofStart setting.surroundings app ++ ofEnd setting.surroundings app controller)

theorem Ran.withController {setting : Setting} {app : App} {controller next : Controller}
    {before : Text} {last : Session} (ran : Ran setting app controller before last)
    (same : next.state = controller.state) :
    Ran setting app next before (last.withController next) where
  app_eq := by
    rw [Session.withController, ran.app_eq]
    rfl
  written := by
    have pane := Writing.paneOf_withRun_congr setting.surroundings app same
    rw [ofEnd, pane]
    exact ran.written

namespace Session

variable {setting : Setting} {session started last : Session} {app : App}

theorem written_of_started (dispatched : session.dispatch setting .run = (started, none))
    (idle : session.app.state.isRunning = false) :
    started.terminal.written = session.terminal.written ++
      Writing.text setting.coloured (ofStart setting.surroundings session.app) := by
  rw [written_of_dispatch dispatched, Writing.writings_run _ idle]

/-- The end of a run is shown. -/
theorem ran_of_dispatch {controller : Controller} {state : RunState} {before : Text}
    (dispatched : session.dispatch setting (.runFinished state) = (last, none))
    (same : session.app = app.withRun setting.surroundings controller)
    (written : session.terminal.written =
      before ++ Writing.text setting.coloured (ofStart setting.surroundings app)) :
    Ran setting app controller before last := by
  constructor
  · rw [app_of_dispatch dispatched, same]
    rfl
  · rw [written_of_dispatch dispatched, written, same, Writing.text_append,
      List.append_assoc]
    rfl

theorem RunsOnce.ran {moves : List Controller.Move} {verdict : Verdict}
    (runs : RunsOnce setting false session moves (last, .done verdict))
    (idle : session.app.state.isRunning = false) :
    ∃ controller,
      (session.app.requested setting.surroundings).moveAll? setting.executor
        moves = some controller ∧
      controller.state.isRunning = false ∧
      Ran setting session.app controller session.terminal.written last := by
  cases runs with
  | @ended started _ controller _ dispatched moved stopped concluded =>
      have before := app_of_started dispatched idle
      rw [before] at moved
      refine ⟨controller, moved, stopped, ?_⟩
      cases conclude_eq_iff.mp concluded with
      | shown shows _ =>
          have same : (started.withController controller).app =
              session.app.withRun setting.surroundings controller := by
            rw [withController, before]
            rfl
          have written := written_of_started dispatched idle
          exact ran_of_dispatch shows same written
      | moved _ wanted _ => cases wanted.1

theorem RunsOnce.exists_of_room {moves : List Controller.Move} {controller : Controller}
    (idle : session.app.state.isRunning = false) (room : session.terminal.room = none)
    (moved : (session.app.requested setting.surroundings).moveAll?
      setting.executor moves = some controller)
    (stopped : controller.state.isRunning = false) :
    ∃ last verdict, RunsOnce setting false session moves (last, .done verdict) := by
  obtain ⟨started, dispatched, roomThen⟩ := exists_dispatch_eq_of_room setting room .run
  have movedOn : started.app.controller.moveAll? setting.executor moves = some controller := by
    rw [app_of_started dispatched idle]
    exact moved
  have roomStill : (started.withController controller).terminal.room = none := roomThen
  obtain ⟨last, shows, -⟩ := exists_dispatch_eq_of_room setting roomStill
    (.runFinished (started.withController controller).app.state)
  have unwanted : ¬(false = true ∧
      Verdict.ofState (started.withController controller).app.state = .scriptFailed) :=
    fun wanted => Bool.false_ne_true wanted.1
  exact ⟨last, _, .ended dispatched movedOn stopped
    (conclude_eq_iff.mpr (.shown shows unwanted))⟩

end Session

namespace Interactive

def runLine : Octets :=
  Utf8.encode ":run".toList

/-- How far a session has come that reads the line, with what has been written before.  The
moves are those that a single run makes up to this point. -/
inductive Stage (setting : Setting) (app : App) (written : Text) :
    List Octets → Interactive → Prop where
  | unasked {session : Session} {controller : Controller} {moves : List Controller.Move}
      (moved : app.controller.moveAll? setting.executor moves = some controller)
      (kept : controller.state = app.state)
      (app_eq : session.app = { app with controller := controller })
      (written_eq : session.terminal.written = written) :
      Stage setting app written [runLine] ⟨session, .reading⟩
  | underWay {session : Session} {phase : Phase} {controller : Controller}
      {moves : List Controller.Move} (going : phase = .reading ∨ phase = .closing)
      (moved : (app.requested setting.surroundings).moveAll? setting.executor moves =
        some controller)
      (running : controller.state.isRunning = true)
      (app_eq : session.app = app.withRun setting.surroundings controller)
      (written_eq : session.terminal.written =
        written ++ Writing.text setting.coloured (ofStart setting.surroundings app)) :
      Stage setting app written [] ⟨session, phase⟩
  | finished {session : Session} {phase : Phase} {controller : Controller}
      {moves : List Controller.Move} (resting : phase = .reading ∨ phase = .ended)
      (moved : (app.requested setting.surroundings).moveAll? setting.executor moves =
        some controller)
      (stopped : controller.state.isRunning = false)
      (ran : Ran setting app controller written session) :
      Stage setting app written [] ⟨session, phase⟩

variable {grammar : Grammar} {setting : Setting} {app : App} {written : Text}
variable {before after : Interactive} {turn : Turn} {turns : List Turn}
variable {left : List Octets} {dispatched : List Dispatch}

theorem Reads.of_endOfInput_cons (reads : Reads left (.endOfInput :: turns)) :
    Reads left turns := by
  refine ⟨reads.inOrder, ?_⟩
  rintro before after rfl
  exact reads.complete (.endOfInput :: before) after rfl

theorem endInput_of_running {session : Session} (running : session.app.state.isRunning = true) :
    endInput session = ⟨session, .closing⟩ := by
  rw [endInput, running]
  rfl

theorem endInput_of_stopped {session : Session} (stopped : session.app.state.isRunning = false) :
    endInput session = ⟨session, .ended⟩ := by
  rw [endInput, stopped]
  rfl

theorem Reads.not_line {octets : Octets} : ¬ Reads [] (.line octets :: turns) := by
  intro reads
  obtain ⟨rest, same, -⟩ := reads.of_line
  cases same

theorem ofInput_runLine : Message.ofInput ":run".toList = .run := by
  decide

/-- The line starts the run, whatever the tasks of earlier runs have done. -/
theorem Stage.of_line {session : Session} {controller : Controller}
    {moves : List Controller.Move} (coherent : Controller.Coherent grammar app.controller)
    (idle : app.state.isRunning = false) (staying : app.shouldQuit = false)
    (moved : app.controller.moveAll? setting.executor moves = some controller)
    (kept : controller.state = app.state)
    (app_eq : session.app = { app with controller := controller })
    (written_eq : session.terminal.written = written)
    (sound : ∀ fault, (resume .reading (session.dispatch setting .run)).phase ≠
      .failed (.terminal fault)) :
    Stage setting app written [] (resume .reading (session.dispatch setting .run)) := by
  obtain ⟨started, dispatched, resumed⟩ := exists_dispatch_eq sound
  have idleNow : session.app.state.isRunning = false := by
    rw [app_eq]
    change controller.state.isRunning = false
    rw [kept]
    exact idle
  have became := Session.app_of_started dispatched idleNow
  have wrote := Session.written_of_started dispatched idleNow
  rw [app_eq] at became wrote
  have stays : started.app.shouldQuit = false := by
    rw [became]
    exact staying
  have idleThen : controller.state.isRunning = false := kept ▸ idle
  have requested : (app.requested setting.surroundings).moveAll? setting.executor moves =
      some (App.requested { app with controller := controller } setting.surroundings) := by
    simp only [App.requested, coherent.nextRun_eq moved]
    exact coherent.moveAll?_requestRun idle app.buffer.text _ moved
  have runs := App.isRunning_requested setting.surroundings idle
  have runsNow :
      (App.requested { app with controller := controller } setting.surroundings).state.isRunning =
        true :=
    App.isRunning_requested setting.surroundings idleThen
  have sameState : (App.requested { app with controller := controller }
      setting.surroundings).state = (app.requested setting.surroundings).state :=
    ((RunState.isRunning_iff _).mp runsNow).trans ((RunState.isRunning_iff _).mp runs).symm
  have sameStart : ofStart setting.surroundings { app with controller := controller } =
      ofStart setting.surroundings app :=
    congrArg (fun pane => [Writing.notices app.notices, pane])
      (Writing.paneOf_withRun_congr setting.surroundings app sameState)
  rw [resumed, stays]
  refine .underWay (.inl rfl) requested ?_ became ?_
  · exact runsNow
  · rw [wrote, written_eq, sameStart]

theorem Stage.of_finish {session : Session} {phase : Phase} {controller next : Controller}
    {moves : List Controller.Move} (going : phase = .reading ∨ phase = .closing)
    (staying : app.shouldQuit = false)
    (moved : (app.requested setting.surroundings).moveAll? setting.executor moves =
      some next)
    (stopped : next.state.isRunning = false)
    (app_eq : session.app = app.withRun setting.surroundings controller)
    (written_eq : session.terminal.written =
      written ++ Writing.text setting.coloured (ofStart setting.surroundings app))
    (sound : ∀ fault, (resume (if phase = .closing then .ended else phase)
      ((session.withController next).dispatch setting (.runFinished next.state))).phase ≠
        .failed (.terminal fault)) :
    Stage setting app written [] (resume (if phase = .closing then .ended else phase)
      ((session.withController next).dispatch setting (.runFinished next.state))) := by
  obtain ⟨shown, dispatched, resumed⟩ := exists_dispatch_eq sound
  have became : (session.withController next).app =
      app.withRun setting.surroundings next := by
    rw [Session.withController, app_eq]
    rfl
  have ran := Session.ran_of_dispatch dispatched became written_eq
  have stays : shown.app.shouldQuit = false := by
    rw [ran.app_eq]
    exact staying
  rw [resumed, stays]
  refine .finished ?_ moved stopped ran
  rcases going with rfl | rfl
  · exact .inl rfl
  · exact .inr rfl

theorem Stage.step (stage : Stage setting app written left before)
    (coherent : Controller.Coherent grammar app.controller)
    (idle : app.state.isRunning = false) (staying : app.shouldQuit = false)
    (step : Step setting before turn dispatched after) (reads : Reads left (turn :: turns))
    (sound : ∀ fault, after.phase ≠ .failed (.terminal fault)) :
    ∃ rest, left = linesRead [turn] ++ rest ∧ Reads rest turns ∧
      Stage setting app written rest after := by
  cases stage with
  | @unasked session controller moves moved kept app_eq written_eq =>
      have current : session.app.controller = controller := by rw [app_eq]
      cases step with
      | line decoded =>
          obtain ⟨rest, same, readsRest⟩ := reads.of_line
          obtain ⟨rfl, rfl⟩ := List.cons.inj same
          rw [runLine, Utf8.decode_encode] at decoded
          obtain rfl := Except.ok.inj decoded
          rw [ofInput_runLine] at sound ⊢
          exact ⟨[], rfl, readsRest,
            .of_line coherent idle staying moved kept app_eq written_eq sound⟩
      | illFormed refused =>
          obtain ⟨rest, same, -⟩ := reads.of_line
          obtain ⟨rfl, -⟩ := List.cons.inj same
          rw [runLine, Utf8.decode_encode] at refused
          cases refused
      | endOfInput => cases reads.of_endOfInput
      | wait going movedOn keptOn =>
          rw [current] at movedOn
          rw [App.state, current, kept] at keptOn
          refine ⟨_, rfl, reads.of_move,
            .unasked (Controller.moveAll?_concat moved movedOn) keptOn ?_ written_eq⟩
          rw [Session.withController, app_eq]
      | finish going movedOn running stopped =>
          rw [App.state, current, kept] at running
          rw [idle] at running
          cases running
  | @underWay session phase controller moves going moved running app_eq written_eq =>
      have current : session.app.controller = controller := by rw [app_eq]; rfl
      have state : session.app.state = controller.state := by rw [App.state, current]
      cases step with
      | line => exact reads.not_line.elim
      | illFormed => exact reads.not_line.elim
      | endOfInput =>
          rw [endInput_of_running (state ▸ running)]
          exact ⟨[], rfl, reads.of_endOfInput_cons,
            .underWay (.inr rfl) moved running app_eq written_eq⟩
      | wait _ movedOn keptOn =>
          rw [current] at movedOn
          rw [state] at keptOn
          refine ⟨[], rfl, reads.of_move,
            .underWay going (Controller.moveAll?_concat moved movedOn) (keptOn ▸ running) ?_
              written_eq⟩
          rw [Session.withController, app_eq]
          rfl
      | finish _ movedOn _ stopped =>
          rw [current] at movedOn
          exact ⟨[], rfl, reads.of_move, .of_finish going staying
            (Controller.moveAll?_concat moved movedOn) stopped app_eq written_eq sound⟩
  | @finished session phase controller moves resting moved stopped ran =>
      have current : session.app.controller = controller := by rw [ran.app_eq]; rfl
      have state : session.app.state = controller.state := by rw [App.state, current]
      cases step with
      | line => exact reads.not_line.elim
      | illFormed => exact reads.not_line.elim
      | endOfInput =>
          rw [endInput_of_stopped (state ▸ stopped)]
          exact ⟨[], rfl, reads.of_endOfInput_cons, .finished (.inr rfl) moved stopped ran⟩
      | wait _ movedOn keptOn =>
          rw [current] at movedOn
          rw [state] at keptOn
          exact ⟨[], rfl, reads.of_move,
            .finished resting (Controller.moveAll?_concat moved movedOn) (keptOn ▸ stopped)
              (ran.withController keptOn)⟩
      | finish _ _ running _ =>
          rw [state, stopped] at running
          cases running

/-- Every schedule leads to a stage, as long as nothing fails. -/
theorem Stage.follows {trace : List Dispatch} (stage : Stage setting app written left before)
    (coherent : Controller.Coherent grammar app.controller)
    (idle : app.state.isRunning = false) (staying : app.shouldQuit = false)
    (follows : Follows setting before turns trace after) (reads : Reads left turns)
    (sound : ∀ fault, after.phase ≠ .failed (.terminal fault)) :
    ∃ rest, left = linesRead turns ++ rest ∧ Stage setting app written rest after := by
  induction follows generalizing left with
  | nil => exact ⟨left, rfl, stage⟩
  | @cons _ next last turn turns _ _ first later induction =>
      have soundNext : ∀ fault, next.phase ≠ .failed (.terminal fault) :=
        fun fault => later.phase_ne_failed (sound fault)
      obtain ⟨rest, read, readsRest, stageNext⟩ :=
        stage.step coherent idle staying first reads soundNext
      obtain ⟨final, readLater, stageLast⟩ := induction stageNext readsRest sound
      refine ⟨final, ?_, stageLast⟩
      rw [← List.singleton_append, linesRead_append, List.append_assoc, ← readLater, read]

theorem Stage.exists_ran {session : Session}
    (stage : Stage setting app written left ⟨session, .ended⟩) :
    ∃ moves controller,
      (app.requested setting.surroundings).moveAll? setting.executor moves =
        some controller ∧
      controller.state.isRunning = false ∧ Ran setting app controller written session := by
  cases stage with
  | underWay going =>
      rcases going with reading | closing
      · cases reading
      · cases closing
  | finished _ moved stopped ran => exact ⟨_, _, moved, stopped, ran⟩

/-- The text of the first pane, behind what is on the terminal. -/
def firstPane (setting : Setting) (app : App) (terminal : Terminal) : Text :=
  terminal.written ++ Writing.text setting.coloured [.paneOf setting.surroundings app]

variable {terminal : Terminal}

theorem stage_start (staying : app.shouldQuit = false)
    (sound : ∀ fault, (start setting ⟨app, terminal⟩).phase ≠ .failed (.terminal fault)) :
    Stage setting app (firstPane setting app terminal) [runLine]
      (start setting ⟨app, terminal⟩) := by
  obtain ⟨shown, drawn, started⟩ := exists_start_eq sound
  have same : shown.app = app := Session.app_of_paint drawn
  have stays : shown.app.shouldQuit = false := by
    rw [same]
    exact staying
  rw [started, stays]
  have unmoved : app.controller.moveAll? setting.executor [] = some app.controller := rfl
  refine .unasked unmoved rfl same ?_
  rw [Session.written_of_paint drawn]
  simp [firstPane, Writing.text, Writing.paneOf, Writing.lines, Session.paneLines]

theorem stage_follow? {last : Interactive}
    (coherent : Controller.Coherent grammar app.controller)
    (idle : app.state.isRunning = false) (staying : app.shouldQuit = false)
    (reads : Reads [runLine] turns)
    (followed : (start setting ⟨app, terminal⟩).follow? setting turns = some last)
    (sound : ∀ fault, last.phase ≠ .failed (.terminal fault)) :
    ∃ rest, [runLine] = linesRead turns ++ rest ∧
      Stage setting app (firstPane setting app terminal) rest last := by
  obtain ⟨trace, follows⟩ := follow?_eq_some_iff.mp followed
  have stage := stage_start staying fun fault => follows.phase_ne_failed (sound fault)
  exact stage.follows coherent idle staying follows reads sound

/-- An interactive session has left what a single run has left, and has written the first
pane and then what the single run has written. -/
structure Agrees (setting : Setting) (app : App) (terminal other : Terminal)
    (last once : Session) : Prop where
  buffer : last.app.buffer = once.app.buffer
  source : last.app.source = once.app.source
  state : last.app.state = once.app.state
  written : ∃ text, once.terminal.written = other.written ++ text ∧
    last.terminal.written = firstPane setting app terminal ++ text

theorem agrees_of_ran {other : Terminal} {controller once : Controller} {last single : Session}
    (ran : Ran setting app controller (firstPane setting app terminal) last)
    (ranOnce : Ran setting app once other.written single)
    (same : controller.state = once.state) :
    Agrees setting app terminal other last single where
  buffer := by
    rw [ran.app_eq, ranOnce.app_eq]
    rfl
  source := by
    rw [ran.app_eq, ranOnce.app_eq]
    rfl
  state := by
    rw [ran.app_eq, ranOnce.app_eq]
    exact same
  written := by
    have pane := Writing.paneOf_withRun_congr setting.surroundings app same
    refine ⟨_, ranOnce.written, ?_⟩
    rw [ran.written, ofEnd, ofEnd, pane]

theorem linesRead_moves (moves : List Controller.Move) : linesRead (moves.map .move) = [] := by
  induction moves with
  | nil => rfl
  | cons move moves induction => exact induction

theorem endOfInput_not_mem_moves (moves : List Controller.Move) :
    Turn.endOfInput ∉ moves.map Turn.move := by
  simp

theorem Reads.append {lines rest : List Octets} {further : List Turn} (reads : Reads lines turns)
    (split : lines = linesRead turns ++ rest) (readsOn : Reads rest further) :
    Reads lines (turns ++ further) where
  inOrder := by
    rw [linesRead_append, split]
    exact (List.prefix_append_right_inj _).mpr readsOn.inOrder
  complete := by
    intro before after same
    rcases List.append_eq_append_iff.mp same with ⟨between, rfl, later⟩ | ⟨between, rfl, later⟩
    · rw [linesRead_append, readsOn.complete _ _ later, split]
    · cases between with
      | nil =>
          rw [List.append_nil] at split
          rw [split, ← readsOn.complete [] _ later.symm]
          exact (List.append_nil _).symm
      | cons turn between =>
          obtain ⟨rfl, -⟩ := List.cons.inj later
          exact reads.complete _ _ rfl

theorem Reads.moves (moves : List Controller.Move) : Reads [] (moves.map .move) :=
  .of_open (linesRead_moves moves ▸ List.prefix_refl []) (endOfInput_not_mem_moves moves)

theorem Reads.closing (moves : List Controller.Move) :
    Reads [] (moves.map .move ++ [.endOfInput]) :=
  .of_closed (endOfInput_not_mem_moves moves) (linesRead_moves moves) List.not_mem_nil rfl

theorem follow?_cons {middle : Interactive} (taken : before.turn? setting turn = some middle)
    (followed : middle.follow? setting turns = some after) :
    before.follow? setting (turn :: turns) = some after :=
  Option.bind_eq_some_iff.mpr ⟨middle, taken, followed⟩

theorem Reads.runLine : Reads [Interactive.runLine] [.line Interactive.runLine] :=
  .of_open (List.prefix_refl _) (by simp)

theorem turn?_runLine {session : Session} :
    (Interactive.mk session .reading).turn? setting (.line Interactive.runLine) =
      some (resume .reading (session.dispatch setting .run)) := by
  have taken : Step setting ⟨session, .reading⟩ (.line Interactive.runLine) _ _ :=
    .line (Utf8.decode_encode ":run".toList)
  rw [ofInput_runLine] at taken
  exact turn?_eq_some_iff.mpr ⟨_, taken⟩

theorem turn?_of_stopped {session : Session} (stopped : session.app.state.isRunning = false) :
    (Interactive.mk session .reading).turn? setting .endOfInput = some ⟨session, .ended⟩ :=
  congrArg some (endInput_of_stopped stopped)

theorem turn?_of_running {session : Session} (running : session.app.state.isRunning = true) :
    (Interactive.mk session .reading).turn? setting .endOfInput = some ⟨session, .closing⟩ :=
  congrArg some (endInput_of_running running)

variable {session : Session} {phase : Phase} {middle next : Controller}
variable {moves : List Controller.Move} {move : Controller.Move}

/-- Moves are made while a run is in flight. -/
theorem follow?_moves (going : phase = .reading ∨ phase = .closing)
    (moved : session.app.controller.moveAll? setting.executor moves = some middle)
    (running : middle.state.isRunning = true) :
    (Interactive.mk session phase).follow? setting (moves.map .move) =
      some ⟨session.withController middle, phase⟩ := by
  induction moves generalizing session with
  | nil =>
      cases moved
      rfl
  | cons move moves induction =>
      obtain ⟨next, first, rest⟩ := Controller.moveAll?_cons_eq_some_iff.mp moved
      have runs : next.state.isRunning = true := by
        by_contra stopped
        rw [Controller.state_eq_of_stopped (by simpa using stopped) rest] at running
        exact stopped running
      have notLeft : ¬(session.app.controller.state.isRunning = true ∧
          next.state.isRunning = false) := by
        rw [runs]
        exact fun left => Bool.false_ne_true left.2.symm
      have kept := (Controller.keptOrEnded_of_move? first).eq_of_not_left notLeft
      have waits : Step setting ⟨session, phase⟩ (.move move) []
          ⟨session.withController next, phase⟩ := .wait going first kept
      have further := @induction (session.withController next) rest
      exact follow?_cons (turn?_eq_some_iff.mpr ⟨_, waits⟩) further

/-- The move that ends a run leads to its end being shown. -/
theorem exists_shown (going : phase = .reading ∨ phase = .closing)
    (room : session.terminal.room = none) (staying : session.app.shouldQuit = false)
    (moved : session.app.controller.moveAll? setting.executor moves = some middle)
    (running : middle.state.isRunning = true)
    (ends : middle.move? setting.executor move = some next)
    (stopped : next.state.isRunning = false) :
    ∃ shown, (Interactive.mk session phase).follow? setting ((moves ++ [move]).map .move) =
        some ⟨shown, if phase = .closing then .ended else phase⟩ ∧
      shown.app.state = next.state ∧ shown.terminal.room = none := by
  have finishes : Step setting ⟨session.withController middle, phase⟩ (.move move) _ _ :=
    .finish going ends running stopped
  have roomThen : ((session.withController middle).withController next).terminal.room = none :=
    room
  obtain ⟨shown, dispatched, roomStill⟩ := Session.exists_dispatch_eq_of_room setting roomThen
    (.runFinished next.state)
  have became := Session.app_of_dispatch dispatched
  have stays : shown.app.shouldQuit = false := by
    rw [became]
    exact staying
  refine ⟨shown, ?_, ?_, roomStill⟩
  · rw [List.map_append]
    refine follow?_append (follow?_moves going moved running)
      (follow?_cons (turn?_eq_some_iff.mpr ⟨_, finishes⟩) ?_)
    rw [dispatched]
    simp only [resume, stays, Bool.false_eq_true, if_false]
    rfl
  · rw [became]
    rfl

/-- A session that has been asked for the run can come to its end. -/
theorem Stage.completes_asked (stage : Stage setting app written [] before)
    (coherent : Controller.Coherent grammar app.controller)
    (idle : app.state.isRunning = false) (staying : app.shouldQuit = false)
    (ends : ¬ app.controller.MayEnd setting.executor app.buffer.text .never)
    (room : before.session.terminal.room = none) :
    ∃ further last, before.follow? setting further = some last ∧ last.phase = .ended ∧
      Reads [] further := by
  cases stage with
  | @underWay session phase controller moves going moved running app_eq written_eq =>
      have current : session.app.controller = controller := by rw [app_eq]; rfl
      have stays : session.app.shouldQuit = false := by
        rw [app_eq]
        exact staying
      obtain ⟨further, later, movedOn, stopped⟩ := coherent.can_stop_run idle ends moved
      obtain ⟨earlier, move, after, middle, next, -, moved, runs, ended, stopped, -⟩ :=
        Controller.exists_ending_move running movedOn stopped
      obtain ⟨shown, followed, state, -⟩ :=
        exists_shown going room stays (current ▸ moved) runs ended stopped
      rcases going with rfl | rfl
      · refine ⟨(earlier ++ [move]).map .move ++ [.endOfInput], ⟨shown, .ended⟩, ?_, rfl,
          .closing _⟩
        exact follow?_append followed (follow?_cons (turn?_of_stopped (state ▸ stopped)) rfl)
      · exact ⟨_, _, followed, rfl, .moves _⟩
  | @finished session phase controller moves resting moved stopped ran =>
      rcases resting with rfl | rfl
      · have state : session.app.state = controller.state := by rw [ran.app_eq]; rfl
        exact ⟨[.endOfInput], ⟨session, .ended⟩,
          follow?_cons (turn?_of_stopped (state ▸ stopped)) rfl, rfl, .closing []⟩
      · exact ⟨[], _, rfl, rfl, .moves []⟩

theorem Stage.completes (stage : Stage setting app written left before)
    (coherent : Controller.Coherent grammar app.controller)
    (idle : app.state.isRunning = false) (staying : app.shouldQuit = false)
    (ends : ¬ app.controller.MayEnd setting.executor app.buffer.text .never)
    (room : before.session.terminal.room = none) :
    ∃ further last, before.follow? setting further = some last ∧ last.phase = .ended ∧
      Reads left further := by
  have reached := stage
  cases stage with
  | @unasked session controller moves moved kept app_eq written_eq =>
      have unlimited : Unlimited (resume .reading (session.dispatch setting .run)) :=
        .resume (Session.exists_dispatch_eq_of_room setting room .run) nofun
      have asked := Stage.of_line coherent idle staying moved kept app_eq written_eq
        unlimited.written
      obtain ⟨further, last, followed, ended, reads⟩ :=
        asked.completes_asked coherent idle staying ends unlimited.room
      exact ⟨.line runLine :: further, last, follow?_cons turn?_runLine followed, ended,
        Reads.runLine.append rfl reads⟩
  | underWay => exact reached.completes_asked coherent idle staying ends room
  | finished => exact reached.completes_asked coherent idle staying ends room

/-- Either order of the end of the input and the end of the run. -/
def orders (moves : List Controller.Move) : List (List Turn) :=
  [.line runLine :: (moves.map .move ++ [.endOfInput]),
    .line runLine :: .endOfInput :: moves.map .move]

/-- The two drivers do the same. -/
structure DriversAgree (setting : Setting) (app : App) (terminal : Terminal) : Prop where
  /-- A session that comes to its end has done what a single run does with some moves. -/
  matched : ∀ turns last, Reads [runLine] turns →
    (start setting ⟨app, terminal⟩).follow? setting turns = some last → last.phase = .ended →
    ∃ moves, ∀ other : Terminal,
      (other.room = none → ∃ once verdict,
        Session.RunsOnce setting false ⟨app, other⟩ moves (once, .done verdict)) ∧
      ∀ once verdict, Session.RunsOnce setting false ⟨app, other⟩ moves (once, .done verdict) →
        Agrees setting app terminal other last.session once
  /-- If the executor can come to one end only, the moves do not matter. -/
  determined : (∀ one two, app.controller.MayEnd setting.executor app.buffer.text one →
      app.controller.MayEnd setting.executor app.buffer.text two → one = two) →
    ∀ turns last, Reads [runLine] turns →
      (start setting ⟨app, terminal⟩).follow? setting turns = some last → last.phase = .ended →
      ∀ moves (other : Terminal) once verdict,
        Session.RunsOnce setting false ⟨app, other⟩ moves (once, .done verdict) →
        Agrees setting app terminal other last.session once
  /-- No session is stuck before its end. -/
  finishable : terminal.room = none →
    ¬ app.controller.MayEnd setting.executor app.buffer.text .never →
    ∀ turns present, Reads [runLine] turns →
      (start setting ⟨app, terminal⟩).follow? setting turns = some present →
      ∃ further last, Reads [runLine] (turns ++ further) ∧
        (start setting ⟨app, terminal⟩).follow? setting (turns ++ further) = some last ∧
        last.phase = .ended
  /-- What a single run does is done by sessions in which the input ends after the run, and
  by sessions in which it ends before. -/
  anyOrder : terminal.room = none →
    ∀ moves (other : Terminal) once verdict,
      Session.RunsOnce setting false ⟨app, other⟩ moves (once, .done verdict) →
      ∃ early, early <+: moves ∧ ∀ turns ∈ orders early, Reads [runLine] turns ∧
        ∃ last, (start setting ⟨app, terminal⟩).follow? setting turns = some last ∧
          last.phase = .ended ∧ Agrees setting app terminal other last.session once

theorem exists_ran_of_follow? {last : Interactive}
    (coherent : Controller.Coherent grammar app.controller)
    (idle : app.state.isRunning = false) (staying : app.shouldQuit = false)
    (reads : Reads [runLine] turns)
    (followed : (start setting ⟨app, terminal⟩).follow? setting turns = some last)
    (ended : last.phase = .ended) :
    ∃ moves controller,
      (app.requested setting.surroundings).moveAll? setting.executor moves =
        some controller ∧
      controller.state.isRunning = false ∧
      Ran setting app controller (firstPane setting app terminal) last.session := by
  have sound : ∀ fault, last.phase ≠ .failed (.terminal fault) := by
    intro fault
    rw [ended]
    exact nofun
  obtain ⟨session, phase⟩ := last
  obtain rfl := ended
  obtain ⟨rest, -, stage⟩ := stage_follow? coherent idle staying reads followed sound
  exact stage.exists_ran

theorem exists_asked (setting : Setting) (idle : app.state.isRunning = false)
    (staying : app.shouldQuit = false) (room : terminal.room = none) :
    ∃ started,
      (start setting ⟨app, terminal⟩).follow? setting [.line runLine] =
        some ⟨started, .reading⟩ ∧
      started.app = app.withRun setting.surroundings
        (app.requested setting.surroundings) ∧
      started.terminal.room = none := by
  have begins : Unlimited (start setting ⟨app, terminal⟩) := .start room
  obtain ⟨shown, drawn, begun⟩ := exists_start_eq begins.written
  have same : shown.app = app := Session.app_of_paint drawn
  have stays : shown.app.shouldQuit = false := by
    rw [same]
    exact staying
  rw [begun, stays] at begins ⊢
  obtain ⟨started, dispatched, roomThen⟩ :=
    Session.exists_dispatch_eq_of_room setting begins.room .run
  have became := Session.app_of_started dispatched (same ▸ idle)
  rw [same] at became
  have staysThen : started.app.shouldQuit = false := by
    rw [became]
    exact staying
  refine ⟨started, follow?_cons turn?_runLine ?_, became, roomThen⟩
  rw [dispatched]
  simp only [resume, staysThen, Bool.false_eq_true, if_false]
  rfl

/-- The run can be ended before the end of the input and after it. -/
theorem exists_ended_in_order {early : List Turn} (idle : app.state.isRunning = false)
    (staying : app.shouldQuit = false) (room : terminal.room = none)
    (moved : (app.requested setting.surroundings).moveAll? setting.executor moves =
      some middle)
    (running : middle.state.isRunning = true)
    (ends : middle.move? setting.executor move = some next)
    (stopped : next.state.isRunning = false) (order : early ∈ orders (moves ++ [move])) :
    Reads [runLine] early ∧
      ∃ shown, (start setting ⟨app, terminal⟩).follow? setting early = some ⟨shown, .ended⟩ ∧
        shown.app.state = next.state := by
  obtain ⟨started, asked, became, roomThen⟩ := exists_asked setting idle staying room
  have current : started.app.controller = (app.requested setting.surroundings) := by
    rw [became]
    rfl
  have stays : started.app.shouldQuit = false := by
    rw [became]
    exact staying
  have movedThen := current ▸ moved
  simp only [orders, List.mem_cons, List.not_mem_nil, or_false] at order
  rcases order with rfl | rfl
  · obtain ⟨shown, followed, state, -⟩ :=
      exists_shown (.inl rfl) roomThen stays movedThen running ends stopped
    have closes : (Interactive.mk started .reading).follow? setting
        ((moves ++ [move]).map .move ++ [.endOfInput]) = some ⟨shown, .ended⟩ :=
      follow?_append followed (follow?_cons (turn?_of_stopped (state ▸ stopped)) rfl)
    exact ⟨Reads.runLine.append rfl (.closing _), shown, follow?_append asked closes, state⟩
  · have runs : started.app.state.isRunning = true := by
      rw [App.state, current]
      exact App.isRunning_requested setting.surroundings idle
    obtain ⟨shown, followed, state, -⟩ :=
      exists_shown (.inr rfl) roomThen stays movedThen running ends stopped
    have closes := follow?_cons (turn?_of_running runs) followed
    have never : Turn.endOfInput ∉ [Turn.line runLine] := by simp
    have reads := Reads.of_closed never rfl (endOfInput_not_mem_moves (moves ++ [move]))
      (linesRead_moves _)
    exact ⟨reads, shown, follow?_append asked closes, state⟩

theorem DriversAgree.of_idle (setting : Setting) (terminal : Terminal)
    (coherent : Controller.Coherent grammar app.controller)
    (idle : app.state.isRunning = false) (staying : app.shouldQuit = false) :
    DriversAgree setting app terminal where
  matched := by
    intro turns last reads followed ended
    obtain ⟨moves, controller, moved, stopped, ran⟩ :=
      exists_ran_of_follow? coherent idle staying reads followed ended
    refine ⟨moves, fun other => ⟨fun room => ?_, fun once verdict runs => ?_⟩⟩
    · have idleCopy : (Session.mk app other).app.state.isRunning = false := idle
      exact Session.RunsOnce.exists_of_room idleCopy room moved stopped
    · obtain ⟨single, movedAlike, -, ranOnce⟩ := runs.ran idle
      cases moved.symm.trans movedAlike
      exact agrees_of_ran ran ranOnce rfl
  determined := by
    intro unique turns last reads followed ended moves other once verdict runs
    obtain ⟨_, controller, moved, stopped, ran⟩ :=
      exists_ran_of_follow? coherent idle staying reads followed ended
    obtain ⟨single, movedOnce, stoppedOnce, ranOnce⟩ := runs.ran idle
    exact agrees_of_ran ran ranOnce
      (coherent.state_eq_of_stopped idle unique moved stopped movedOnce stoppedOnce)
  finishable := by
    intro room ends turns present reads followed
    obtain ⟨trace, follows⟩ := follow?_eq_some_iff.mp followed
    have begins : Unlimited (start setting ⟨app, terminal⟩) := .start room
    have unlimited := begins.of_follows follows
    obtain ⟨rest, read, stage⟩ :=
      stage_follow? coherent idle staying reads followed unlimited.written
    obtain ⟨further, last, followedOn, ended, readsOn⟩ :=
      stage.completes coherent idle staying ends unlimited.room
    exact ⟨further, last, reads.append read readsOn, follow?_append followed followedOn, ended⟩
  anyOrder := by
    intro room moves other once verdict runs
    obtain ⟨single, movedOnce, stoppedOnce, ranOnce⟩ := runs.ran idle
    have running := App.isRunning_requested setting.surroundings idle
    obtain ⟨earlier, move, after, middle, next, same, moved, going, ends, stopped, state⟩ :=
      Controller.exists_ending_move running movedOnce stoppedOnce
    refine ⟨earlier ++ [move], ⟨after, by simp [same]⟩, fun turns order => ?_⟩
    obtain ⟨reads, shown, followed, shownState⟩ :=
      exists_ended_in_order idle staying room moved going ends stopped order
    obtain ⟨_, controller, -, -, ran⟩ :=
      exists_ran_of_follow? coherent idle staying reads followed rfl
    have ended : controller.state = single.state := by
      rw [state, ← shownState, ran.app_eq]
      rfl
    exact ⟨reads, _, followed, rfl, agrees_of_ran ran ranOnce ended⟩

/-- An interactive session on a line that asks for a run does what a single run does, and
has drawn a pane before.  It does not matter whether the input ends before the run.  The
setting fixes for both of them the elapsed times and the numbers of the tasks. -/
theorem drivers_agree (setting : Setting) (terminal : Terminal) {system : System}
    (reached : Controller.Reaches setting.executor (Controller.new grammar system)
      app.controller)
    (idle : app.state.isRunning = false) (staying : app.shouldQuit = false) :
    DriversAgree setting app terminal :=
  .of_idle setting terminal (.reaches reached) idle staying

/-- The empty script is run, and the input ends after the run or before. -/
theorem drivers_agree_echo :
    (echoSession.runOnce echoSetting 0 false).2 = .done .succeeded ∧
      ∃ early, ∀ turns ∈ orders early, Reads [runLine] turns ∧
        ∃ last, (start echoSetting echoSession).follow? echoSetting turns = some last ∧
          last.phase = .ended ∧
          Agrees echoSetting echoSession.app .unlimited .unlimited last.session
            (echoSession.runOnce echoSetting 0 false).1 := by
  have done : (echoSession.runOnce echoSetting 0 false).2 = .done .succeeded := by
    decide +kernel
  have waitedFor : (echoSession.runOnce echoSetting 0 false).2 ≠ .waiting := by
    rw [done]
    exact nofun
  have reached : Controller.Reaches echoSetting.executor
      (Controller.new (fun _ => none) (.idle ⟨[], []⟩)) echoSession.app.controller :=
    ⟨[], false, .refl _⟩
  obtain ⟨moves, runs⟩ := Session.runsOnce_of_runOnce 0 waitedFor
  have agree := drivers_agree echoSetting .unlimited reached rfl rfl
  generalize echoSession.runOnce echoSetting 0 false = result at done runs
  obtain ⟨once, stop⟩ := result
  obtain rfl := done
  obtain ⟨early, -, ordered⟩ := agree.anyOrder rfl moves .unlimited once .succeeded runs
  exact ⟨rfl, early, ordered⟩

/-- A desk on which the executor crashes, in a task with the given number. -/
def crashingSetting (number : TaskNumber) : Setting :=
  ⟨⟨0, none, fun _ => number⟩, .fixed fun _ => ⟨false, .crashes .mute⟩, false⟩

/-- The input ends after the run has been given up. -/
def crashTurns : List Turn :=
  [.line runLine, .move (.task 0 .start), .move (.task 0 .proceed), .move (.task 0 .crash),
    .move .join, .endOfInput]

/-- The reason for which a run is given up tells the number of its task.  If the tasks of the
two drivers have different numbers, the drivers leave different states and write different
texts. -/
theorem drivers_disagree_on_task_numbers :
    ∃ last,
      (start (crashingSetting 1) echoSession).follow? (crashingSetting 1) crashTurns = some last ∧
      last.phase = .ended ∧
      (echoSession.runOnce (crashingSetting 2) 0 false).2 = .done .couldNotRun ∧
      last.session.app.state ≠ (echoSession.runOnce (crashingSetting 2) 0 false).1.app.state ∧
      last.session.terminal.written ≠
        firstPane (crashingSetting 1) echoSession.app echoSession.terminal ++
          (echoSession.runOnce (crashingSetting 2) 0 false).1.terminal.written := by
  have computed :
      ((start (crashingSetting 1) echoSession).follow? (crashingSetting 1) crashTurns).map
          (fun last => (last.phase, last.session.app.state,
            decide (last.session.terminal.written =
              firstPane (crashingSetting 1) echoSession.app echoSession.terminal ++
                (echoSession.runOnce (crashingSetting 2) 0 false).1.terminal.written))) =
        some (.ended, .failed (.launch (RunTask.failure 1 "panicked".toList)), false) := by
    decide +kernel
  have once : (echoSession.runOnce (crashingSetting 2) 0 false).2 = .done .couldNotRun ∧
      (echoSession.runOnce (crashingSetting 2) 0 false).1.app.state =
        .failed (.launch (RunTask.failure 2 "panicked".toList)) := by
    decide +kernel
  obtain ⟨last, followed, same⟩ := Option.map_eq_some_iff.mp computed
  simp only [Prod.mk.injEq, decide_eq_false_iff_not] at same
  obtain ⟨ended, state, written⟩ := same
  refine ⟨last, followed, ended, once.1, ?_, written⟩
  rw [state, once.2]
  decide +kernel

end Interactive

end ScriptDesk

import Mathlib.Data.List.Count
import ScriptDesk.Proofs.App.Answers
import ScriptDesk.Proofs.Controller.Progress
import ScriptDesk.Proofs.Session.Dispatching

/-!
# The pane that is shown

The state changes within answers to messages and within moves of the
controller.  An answer that changes the state asks for a pane, and a move that
changes it is followed by a message that asks for one.  Hence the last pane
that was written shows the state as it is, between any two turns of a session.
-/

namespace ScriptDesk

namespace Writing

/-- The state that the last pane shows, given the state that is shown before. -/
def lastShown (before : RunState) (writings : List Writing) : RunState :=
  (writings.filterMap shown?).getLast?.getD before

theorem lastShown_append (before : RunState) (first second : List Writing) :
    lastShown before (first ++ second) = lastShown (lastShown before first) second := by
  unfold lastShown
  rw [List.filterMap_append, List.getLast?_append, Option.getD_or]

end Writing

namespace Dispatch

variable {surroundings : Surroundings}

def startsRun (dispatch : Dispatch) : Bool :=
  dispatch.message = .run &&
    (dispatch.app.controller.machine.beginRun dispatch.app.controller.nextRun
      dispatch.app.buffer.text).2

def isReset (dispatch : Dispatch) : Bool :=
  dispatch.message = .reset

/-- The number of panes that are drawn for the message. -/
def panes (dispatch : Dispatch) : Nat :=
  (if dispatch.startsRun then 1 else 0) + (if dispatch.isCompletion then 1 else 0) +
    if dispatch.isReset then 1 else 0

theorem filterMap_shown?_writings (dispatch : Dispatch) :
    (dispatch.writings surroundings).filterMap Writing.shown? =
      if (dispatch.app.react surroundings dispatch.message).followUp = .redrawPane then
        [(dispatch.app.answered surroundings dispatch.message).state]
      else [] := by
  have asked : (dispatch.app.update surroundings dispatch.message).2 =
      (dispatch.app.react surroundings dispatch.message).followUp := rfl
  rw [← App.takeNotices_update]
  by_cases redraws :
      (dispatch.app.react surroundings dispatch.message).followUp = .redrawPane
  · simp only [writings, asked, redraws, if_true]
    rfl
  · simp only [writings, asked, if_neg redraws]
    rfl

/-- An answer asks for a pane where a run is started, has finished, or is forgotten.  Any
other answer keeps the state. -/
theorem redraws_or_keeps {app next : App} {message : Message} {followUp : FollowUp}
    (answers : app.Answers surroundings message next followUp) :
    (followUp = .redrawPane ∧ panes ⟨app, message⟩ = 1) ∨
      (followUp ≠ .redrawPane ∧ panes ⟨app, message⟩ = 0 ∧ next.state = app.state) := by
  cases answers with
  | accept idle =>
      have accepted :=
        RunMachine.beginRun_of_idle app.controller.nextRun app.buffer.text idle
      exact .inl ⟨rfl, by simp [panes, startsRun, isCompletion, isReset, accepted]⟩
  | refuse running =>
      have refused :=
        RunMachine.beginRun_of_running app.controller.nextRun app.buffer.text running
      exact .inr ⟨nofun, by simp [panes, startsRun, isCompletion, isReset, refused], rfl⟩
  | reset => exact .inl ⟨rfl, rfl⟩
  | runFinished state => exact .inl ⟨rfl, rfl⟩
  | edit line => exact .inr ⟨nofun, rfl, rfl⟩
  | load readable => exact .inr ⟨nofun, rfl, rfl⟩
  | notFound unreadable => exact .inr ⟨nofun, rfl, rfl⟩
  | gotoError request caret => exact .inr ⟨nofun, rfl, rfl⟩
  | listing => exact .inr ⟨nofun, rfl, rfl⟩
  | help => exact .inr ⟨nofun, rfl, rfl⟩
  | quit => exact .inr ⟨nofun, rfl, rfl⟩
  | unknown line => exact .inr ⟨nofun, rfl, rfl⟩

theorem length_shown (dispatch : Dispatch) :
    ((dispatch.writings surroundings).filterMap Writing.shown?).length = dispatch.panes := by
  rw [filterMap_shown?_writings]
  have answers := dispatch.app.answers_react surroundings dispatch.message
  rcases redraws_or_keeps answers with
    ⟨redraws, count⟩ | ⟨other, count, kept⟩
  · rw [if_pos redraws, count]
    rfl
  · rw [if_neg other, count]
    rfl

theorem length_shown_flatMap (trace : List Dispatch) :
    ((trace.flatMap (writings surroundings)).filterMap Writing.shown?).length =
      trace.countP startsRun + trace.countP isCompletion + trace.countP isReset := by
  induction trace with
  | nil => rfl
  | cons dispatch trace induction =>
      rw [List.flatMap_cons, List.filterMap_append, List.length_append, length_shown, induction]
      simp only [List.countP_cons, panes]
      omega

/-- After an answer the last pane shows its state, if the last pane before showed the state
then. -/
theorem lastShown_writings (dispatch : Dispatch) :
    Writing.lastShown dispatch.app.state (dispatch.writings surroundings) =
      (dispatch.app.answered surroundings dispatch.message).state := by
  unfold Writing.lastShown
  rw [filterMap_shown?_writings]
  have answers := dispatch.app.answers_react surroundings dispatch.message
  rcases redraws_or_keeps answers with
    ⟨redraws, count⟩ | ⟨other, count, kept⟩
  · rw [if_pos redraws]
    rfl
  · rw [if_neg other]
    exact kept.symm

end Dispatch

/-- From one session to a later one the pieces were written, and if the last pane showed the
state then, it shows the state now. -/
structure Shows (setting : Setting) (before after : Session) (writings : List Writing) :
    Prop where
  written : after.terminal.written =
    before.terminal.written ++ Writing.text setting.coloured writings
  state : Writing.lastShown before.app.state writings = after.app.state

namespace Shows

variable {setting : Setting} {before middle after : Session}

theorem nothing (setting : Setting) {before after : Session}
    (written : after.terminal = before.terminal) (state : after.app.state = before.app.state) :
    Shows setting before after [] where
  written := by
    rw [written]
    exact (List.append_nil _).symm
  state := state.symm

theorem trans {first second : List Writing} (earlier : Shows setting before middle first)
    (later : Shows setting middle after second) :
    Shows setting before after (first ++ second) where
  written := by
    rw [later.written, earlier.written, List.append_assoc, Writing.text_append]
  state := by rw [Writing.lastShown_append, earlier.state, later.state]

theorem pane (drawn : before.drawPane setting = (after, none)) :
    Shows setting before after [.paneOf setting.surroundings before.app] where
  written := by
    rw [Session.written_of_paint drawn]
    simp only [Writing.text, List.flatMap_cons, List.flatMap_nil, List.append_nil]
    rfl
  state := by
    rw [Session.app_of_paint drawn]
    rfl

theorem dispatch {message : Message}
    (dispatched : before.dispatch setting message = (after, none)) :
    Shows setting before after
      ((Dispatch.mk before.app message).writings setting.surroundings) where
  written := Session.written_of_dispatch dispatched
  state := by
    rw [Session.app_of_dispatch dispatched]
    exact (Dispatch.mk before.app message).lastShown_writings

theorem completion {earlier : Session} {state : RunState}
    (dispatched : before.dispatch setting (.runFinished state) = (after, none))
    (same : before.terminal = earlier.terminal) :
    Shows setting earlier after
      ((Dispatch.mk before.app (.runFinished state)).writings setting.surroundings) where
  written := by
    rw [← same]
    exact Session.written_of_dispatch dispatched
  state := by
    rw [Session.app_of_dispatch dispatched]
    rfl

end Shows

namespace Interactive

variable {setting : Setting}

/-- A session that has ended by itself has no run in flight, unless it was asked to quit. -/
def Concluded (interactive : Interactive) : Prop :=
  interactive.phase = .ended → interactive.session.app.shouldQuit = false →
    interactive.session.app.state.isRunning = false

theorem concluded_resume {phase : Phase} {session : Session}
    (concluded : phase = .ended → session.app.state.isRunning = false) :
    Concluded ⟨session, if session.app.shouldQuit then .ended else phase⟩ := by
  intro ended staying
  simp only at ended staying
  rw [staying] at ended
  exact concluded ended

theorem Step.shows {interactive next : Interactive} {turn : Turn} {dispatched : List Dispatch}
    (step : Step setting interactive turn dispatched next)
    (written : ∀ fault, next.phase ≠ .failed (.terminal fault)) :
    Shows setting interactive.session next.session
      (dispatched.flatMap (Dispatch.writings setting.surroundings)) := by
  cases step with
  | line decoded =>
      obtain ⟨answered, dispatched, resumed⟩ := exists_dispatch_eq written
      rw [resumed, List.flatMap_singleton]
      exact .dispatch dispatched
  | illFormed refused => exact .nothing setting rfl rfl
  | endOfInput session => exact .nothing setting rfl rfl
  | wait going moved kept => exact .nothing setting rfl kept
  | finish going moved running stopped =>
      obtain ⟨answered, dispatched, resumed⟩ := exists_dispatch_eq written
      rw [resumed, List.flatMap_singleton]
      exact .completion dispatched rfl

theorem Step.concluded {interactive next : Interactive} {turn : Turn}
    {dispatched : List Dispatch} (step : Step setting interactive turn dispatched next)
    (written : ∀ fault, next.phase ≠ .failed (.terminal fault)) : Concluded next := by
  cases step with
  | line decoded =>
      obtain ⟨answered, dispatched, resumed⟩ := exists_dispatch_eq written
      rw [resumed]
      exact concluded_resume nofun
  | illFormed refused => exact nofun
  | endOfInput session =>
      intro ended staying
      cases running : session.app.state.isRunning with
      | true => simp [endInput, running] at ended
      | false => exact running
  | wait going moved kept =>
      intro ended
      rcases going with rfl | rfl
      · cases ended
      · cases ended
  | finish going moved running stopped =>
      obtain ⟨answered, dispatched, resumed⟩ := exists_dispatch_eq written
      rw [resumed]
      apply concluded_resume
      intro ended
      rw [Session.app_of_dispatch dispatched]
      exact stopped

theorem shows_start {session : Session}
    (written : ∀ fault, (start setting session).phase ≠ .failed (.terminal fault)) :
    Shows setting session (start setting session).session
      [.paneOf setting.surroundings session.app] := by
  obtain ⟨shown, drawn, started⟩ := exists_start_eq written
  rw [started]
  exact .pane drawn

theorem concluded_start {session : Session}
    (written : ∀ fault, (start setting session).phase ≠ .failed (.terminal fault)) :
    Concluded (start setting session) := by
  obtain ⟨shown, drawn, started⟩ := exists_start_eq written
  rw [started]
  exact concluded_resume nofun

theorem Follows.shows {interactive last : Interactive} {turns : List Turn}
    {trace : List Dispatch} (follows : Follows setting interactive turns trace last)
    (written : ∀ fault, last.phase ≠ .failed (.terminal fault)) :
    Shows setting interactive.session last.session
      (trace.flatMap (Dispatch.writings setting.surroundings)) := by
  induction follows with
  | nil interactive => exact .nothing setting rfl rfl
  | cons first later induction =>
      rw [List.flatMap_append]
      have firstWritten := fun fault => later.phase_ne_failed (written fault)
      exact (first.shows firstWritten).trans (induction written)

theorem Follows.concluded {interactive last : Interactive} {turns : List Turn}
    {trace : List Dispatch} (follows : Follows setting interactive turns trace last)
    (written : ∀ fault, last.phase ≠ .failed (.terminal fault))
    (begun : Concluded interactive) : Concluded last := by
  induction follows with
  | nil interactive => exact begun
  | cons first later induction =>
      exact induction written (first.concluded (fun fault => later.phase_ne_failed (written fault)))

/-- The pieces of output of a session: the first pane, and what its messages call for. -/
def writings (setting : Setting) (session : Session) (trace : List Dispatch) : List Writing :=
  .paneOf setting.surroundings session.app ::
    trace.flatMap (Dispatch.writings setting.surroundings)

/-- As long as everything can be written, the last pane on the terminal shows the state,
whichever turns were taken.  Panes are drawn at first and for each run that is started, has
finished, or is forgotten, whatever state is handed over with a run that has finished.  A
session that ends without being asked to has shown the end of its last run. -/
theorem pane_never_stale {session : Session} {turns : List Turn} {last : Interactive}
    (followed : (start setting session).follow? setting turns = some last)
    (written : ∀ fault, last.phase ≠ .failed (.terminal fault)) :
    (∃ trace, Follows setting (start setting session) turns trace last ∧
      last.session.terminal.written =
        session.terminal.written ++
          Writing.text setting.coloured (writings setting session trace) ∧
      ((writings setting session trace).filterMap Writing.shown?).getLast? =
        some last.session.app.state ∧
      ((writings setting session trace).filterMap Writing.shown?).length =
        1 + trace.countP Dispatch.startsRun + trace.countP Dispatch.isCompletion +
          trace.countP Dispatch.isReset) ∧
      (∀ (shown : Session) (carried : RunState),
        shown.dispatch setting (.runFinished carried) =
          shown.dispatch setting (.runFinished shown.app.state)) ∧
      (last.phase = .ended → last.session.app.shouldQuit = false →
        last.session.app.state.isRunning = false) := by
  obtain ⟨trace, follows⟩ := follow?_eq_some_iff.mp followed
  have startWritten : ∀ fault, (start setting session).phase ≠ .failed (.terminal fault) :=
    fun fault => follows.phase_ne_failed (written fault)
  have shows : Shows setting session last.session (writings setting session trace) :=
    (shows_start startWritten).trans (follows.shows written)
  refine ⟨⟨trace, follows, shows.written, ?lastPane, ?count⟩, ?carried,
    follows.concluded written (concluded_start startWritten)⟩
  case lastPane =>
    have state := shows.state
    simp only [writings, Writing.lastShown, Writing.paneOf, List.filterMap_cons,
      Writing.shown?, List.getLast?_cons, Option.getD_some] at state ⊢
    rw [state]
  case count =>
    simp only [writings, Writing.paneOf, List.filterMap_cons, Writing.shown?,
      List.length_cons, Dispatch.length_shown_flatMap]
    omega
  case carried =>
    intro shown carried
    rfl

def echoSetting : Setting :=
  ⟨⟨0, none, id⟩, .echo, false⟩

/-- A session in which nothing has been run. -/
def echoSession : Session :=
  ⟨.new (fun _ => none) (System.idle ⟨[], []⟩), .unlimited⟩

/-- The input ends while a run is in flight. -/
def endWhileRunning : List Turn :=
  [.line (Utf8.encode ['x']), .line (Utf8.encode ":run".toList), .endOfInput,
    .move (.task 0 .start), .move (.task 0 .proceed), .move (.task 0 .send), .move .receive]

/-- The run in flight at the end of the input is waited for, and its end is shown. -/
theorem pane_never_stale_waited :
    ∃ last, (start echoSetting echoSession).follow? echoSetting endWhileRunning = some last ∧
      (∀ fault, last.phase ≠ .failed (.terminal fault)) ∧
      ∃ trace, Follows echoSetting (start echoSetting echoSession) endWhileRunning trace last ∧
        ((writings echoSetting echoSession trace).filterMap Writing.shown?).getLast? =
          some (.succeeded ['x', '\n'] 0) := by
  have computed :
      ((start echoSetting echoSession).follow? echoSetting endWhileRunning).map
          (fun last => (last.phase, last.session.app.state)) =
        some (.ended, .succeeded ['x', '\n'] 0) := by
    decide +kernel
  obtain ⟨last, followed, same⟩ := Option.map_eq_some_iff.mp computed
  obtain ⟨ended, state⟩ := Prod.mk.inj same
  have written : ∀ fault, last.phase ≠ .failed (.terminal fault) := by
    intro fault
    rw [ended]
    exact nofun
  obtain ⟨⟨trace, follows, -, lastPane, -⟩, -⟩ := pane_never_stale followed written
  rw [state] at lastPane
  exact ⟨last, followed, written, trace, follows, lastPane⟩

end Interactive

end ScriptDesk

import ScriptDesk.Proofs.Session.Turns

/-!
# What a dispatch does

A dispatch answers a message, writes the notices that wait, and writes the pane
if the answer asks for it.  `Writing` names these pieces of output, so that the
text on the terminal can be read as a row of notices and panes.  What becomes
of the application does not depend on whether the terminal takes the pieces.
-/

namespace ScriptDesk

namespace App

theorem noticeAll_eq (app : App) (texts : List Text) :
    ∃ notices, app.noticeAll texts = { app with notices := notices } := by
  induction texts generalizing app with
  | nil => exact ⟨app.notices, rfl⟩
  | cons text texts induction =>
      obtain ⟨notices, same⟩ := induction (app.notice text)
      exact ⟨notices, same⟩

/-- The application after a message whose notices have been handed out. -/
def answered (surroundings : Surroundings) (app : App) (message : Message) : App :=
  { (app.react surroundings message).app with notices := [] }

theorem takeNotices_update (surroundings : Surroundings) (app : App) (message : Message) :
    (app.update surroundings message).1.takeNotices.1 = app.answered surroundings message := by
  obtain ⟨notices, same⟩ := (app.react surroundings message).app.noticeAll_eq
    (app.react surroundings message).issued.toList
  simp only [update, same]
  rfl

end App

namespace Terminal

variable {terminal : Terminal}

theorem written_writeAll (terminal : Terminal) (pieces : List Text)
    (done : (terminal.writeAll pieces).2 = none) :
    (terminal.writeAll pieces).1.written = terminal.written ++ pieces.flatten := by
  induction pieces generalizing terminal with
  | nil => simp [writeAll]
  | cons piece pieces induction =>
      cases written : terminal.write piece with
      | error fault => simp [writeAll, written] at done
      | ok next =>
          have appended : next.written = terminal.written ++ piece := by
            unfold write at written
            split at written
            case h_1 =>
              cases written
              rfl
            case h_2 =>
              split at written
              case isTrue =>
                cases written
                rfl
              case isFalse => cases written
          simp only [writeAll, written] at done ⊢
          rw [induction next done, appended, List.flatten_cons, List.append_assoc]

theorem painted_append (coloured : Bool) (first second : List ViewLine) :
    painted coloured (first ++ second) = painted coloured first ++ painted coloured second := by
  simp [painted]

end Terminal

/-- A piece of output: notices, or a pane for a state with the status line below. -/
inductive Writing where
  | notices (texts : List Text)
  | pane (state : RunState) (status : ViewLine)

namespace Writing

def lines : Writing → List ViewLine
  | .notices texts => Session.noticeLines texts
  | .pane state status => View.outputPane state ++ [View.buttonRow state, status]

/-- The state that a piece shows, if it is a pane. -/
def shown? : Writing → Option RunState
  | .notices _ => none
  | .pane state _ => some state

def paneOf (surroundings : Surroundings) (app : App) : Writing :=
  .pane app.state (app.statusLine surroundings)

/-- What is on the terminal after pieces have been written. -/
def text (coloured : Bool) (writings : List Writing) : Text :=
  Terminal.painted coloured (writings.flatMap lines)

theorem text_append (coloured : Bool) (first second : List Writing) :
    text coloured (first ++ second) = text coloured first ++ text coloured second := by
  simp [text, Terminal.painted_append]

end Writing

def Dispatch.writings (surroundings : Surroundings) (dispatch : Dispatch) : List Writing :=
  let (app, followUp) := dispatch.app.update surroundings dispatch.message
  .notices app.notices ::
    if followUp = .redrawPane then [.paneOf surroundings app] else []

namespace Session

variable {setting : Setting} {session next : Session}

theorem app_of_paint {lines : List ViewLine} {error : Option SessionError}
    (painted : session.paint setting lines = (next, error)) : next.app = session.app := by
  cases painted
  rfl

theorem written_of_paint {lines : List ViewLine}
    (painted : session.paint setting lines = (next, none)) :
    next.terminal.written =
      session.terminal.written ++ Terminal.painted setting.coloured lines := by
  obtain ⟨painted, done⟩ := Prod.mk.inj painted
  rw [← painted]
  exact Terminal.written_writeAll _ _ (Option.map_eq_none_iff.mp done)

/-- A dispatch writes the notices and then, if that did not fail, the pane that the answer
asks for. -/
theorem dispatch_eq {message : Message} {flushed : Session} {error : Option SessionError}
    (painted : (Session.mk (session.app.answered setting.surroundings message)
      session.terminal).paint setting
        (noticeLines (session.app.update setting.surroundings message).1.notices) =
          (flushed, error)) :
    session.dispatch setting message =
      if error = none ∧
          (session.app.update setting.surroundings message).2 = .redrawPane then
        flushed.drawPane setting
      else (flushed, error) := by
  rw [← App.takeNotices_update] at painted
  cases updated : session.app.update setting.surroundings message with
  | mk app followUp =>
      rw [updated] at painted
      simp only [dispatch, updated, flushNotices, App.takeNotices] at painted ⊢
      rw [painted]
      cases error with
      | some error => rfl
      | none => cases followUp <;> rfl

theorem app_of_dispatch {message : Message} {error : Option SessionError}
    (dispatched : session.dispatch setting message = (next, error)) :
    next.app = session.app.answered setting.surroundings message := by
  rw [dispatch_eq rfl] at dispatched
  split at dispatched
  · exact app_of_paint dispatched
  · exact app_of_paint dispatched

/-- Only the terminal makes painting fail. -/
theorem exists_fault_of_paint {lines : List ViewLine} {error : SessionError}
    (painted : session.paint setting lines = (next, some error)) :
    ∃ fault, error = .terminal fault := by
  obtain ⟨fault, -, same⟩ := Option.map_eq_some_iff.mp (Prod.mk.inj painted).2
  exact ⟨fault, same.symm⟩

theorem exists_fault_of_dispatch {message : Message} {error : SessionError}
    (dispatched : session.dispatch setting message = (next, some error)) :
    ∃ fault, error = .terminal fault := by
  rw [dispatch_eq rfl] at dispatched
  split at dispatched
  · exact exists_fault_of_paint dispatched
  · exact exists_fault_of_paint dispatched

theorem written_of_dispatch {message : Message}
    (dispatched : session.dispatch setting message = (next, none)) :
    next.terminal.written =
      session.terminal.written ++ Writing.text setting.coloured
        ((Dispatch.mk session.app message).writings setting.surroundings) := by
  cases painted : (Session.mk (session.app.answered setting.surroundings message)
      session.terminal).paint setting
        (noticeLines (session.app.update setting.surroundings message).1.notices) with
  | mk flushed error =>
      rw [dispatch_eq painted] at dispatched
      split at dispatched
      case isTrue asked =>
        obtain ⟨rfl, redraws⟩ := asked
        have pane := written_of_paint dispatched
        rw [written_of_paint painted, app_of_paint painted, ← App.takeNotices_update] at pane
        simp only [Dispatch.writings, redraws, if_true]
        rw [pane, List.append_assoc, ← Terminal.painted_append]
        simp only [Writing.text, List.flatMap_cons, List.flatMap_nil, List.append_nil]
        rfl
      case isFalse notAsked =>
        cases dispatched
        have other : (session.app.update setting.surroundings message).2 ≠ .redrawPane :=
          fun redraws => notAsked ⟨rfl, redraws⟩
        simp only [Dispatch.writings, if_neg other]
        rw [written_of_paint painted]
        simp [Writing.text, Writing.lines]

/-- A terminal without a limit takes everything, and has no limit afterwards. -/
theorem exists_paint_eq_of_room (setting : Setting) (room : session.terminal.room = none)
    (lines : List ViewLine) :
    ∃ next, session.paint setting lines = (next, none) ∧ next.terminal.room = none := by
  obtain ⟨app, written, limit⟩ := session
  obtain rfl : limit = none := room
  refine ⟨⟨app, written ++ Terminal.painted setting.coloured lines, none⟩, ?_, rfl⟩
  simp only [paint, Terminal.paint_unlimited]
  rfl

theorem exists_dispatch_eq_of_room (setting : Setting) (room : session.terminal.room = none)
    (message : Message) :
    ∃ next, session.dispatch setting message = (next, none) ∧ next.terminal.room = none := by
  have same : (Session.mk (session.app.answered setting.surroundings message)
      session.terminal).terminal.room = none := room
  obtain ⟨flushed, painted, roomStill⟩ := exists_paint_eq_of_room setting same
    (noticeLines (session.app.update setting.surroundings message).1.notices)
  rw [dispatch_eq painted]
  split
  · exact exists_paint_eq_of_room setting roomStill _
  · exact ⟨flushed, rfl, roomStill⟩

end Session

namespace Interactive

variable {phase : Phase}

/-- A session that is not given up has written everything. -/
theorem exists_resume_eq {result : Session × Option SessionError}
    (onlyTerminal : ∀ {next error}, result = (next, some error) →
      ∃ fault, error = .terminal fault)
    (written : ∀ fault, (resume phase result).phase ≠ .failed (.terminal fault)) :
    ∃ next, result = (next, none) ∧
      resume phase result = ⟨next, if next.app.shouldQuit then .ended else phase⟩ := by
  obtain ⟨next, error⟩ := result
  cases error with
  | none => exact ⟨next, rfl, rfl⟩
  | some error =>
      obtain ⟨fault, rfl⟩ := onlyTerminal rfl
      exact (written fault rfl).elim

theorem exists_dispatch_eq {setting : Setting} {session : Session} {message : Message}
    (written : ∀ fault, (resume phase (session.dispatch setting message)).phase ≠
      .failed (.terminal fault)) :
    ∃ next, session.dispatch setting message = (next, none) ∧
      resume phase (session.dispatch setting message) =
        ⟨next, if next.app.shouldQuit then .ended else phase⟩ :=
  exists_resume_eq Session.exists_fault_of_dispatch written

theorem exists_start_eq {setting : Setting} {session : Session}
    (written : ∀ fault, (start setting session).phase ≠ .failed (.terminal fault)) :
    ∃ shown, session.drawPane setting = (shown, none) ∧
      start setting session = ⟨shown, if shown.app.shouldQuit then .ended else .reading⟩ :=
  exists_resume_eq Session.exists_fault_of_paint written

/-- A session whose terminal takes everything. -/
structure Unlimited (interactive : Interactive) : Prop where
  room : interactive.session.terminal.room = none
  written : ∀ fault, interactive.phase ≠ .failed (.terminal fault)

namespace Unlimited

variable {setting : Setting}

theorem resume {result : Session × Option SessionError}
    (taken : ∃ next, result = (next, none) ∧ next.terminal.room = none)
    (other : ∀ fault, phase ≠ .failed (.terminal fault)) : Unlimited (resume phase result) := by
  obtain ⟨next, rfl, room⟩ := taken
  refine ⟨room, fun fault => ?_⟩
  change (if next.app.shouldQuit then Phase.ended else phase) ≠ _
  split
  · exact nofun
  · exact other fault

theorem of_step {before after : Interactive} {turn : Turn} {dispatched : List Dispatch}
    (step : Step setting before turn dispatched after) (unlimited : Unlimited before) :
    Unlimited after := by
  cases step with
  | line decoded => exact resume (Session.exists_dispatch_eq_of_room setting unlimited.room _) nofun
  | illFormed refused => exact ⟨unlimited.room, nofun⟩
  | endOfInput session =>
      refine ⟨unlimited.room, fun fault => ?_⟩
      unfold endInput
      cases session.app.state.isRunning <;> exact nofun
  | wait going moved kept => exact ⟨unlimited.room, unlimited.written⟩
  | @finish session _ _ controller going moved running stopped =>
      have room : (session.withController controller).terminal.room = none := unlimited.room
      refine resume (Session.exists_dispatch_eq_of_room setting room _) fun fault => ?_
      split
      · exact nofun
      · exact unlimited.written fault

theorem of_follows {before last : Interactive} {turns : List Turn} {trace : List Dispatch}
    (follows : Follows setting before turns trace last) (unlimited : Unlimited before) :
    Unlimited last := by
  induction follows with
  | nil => exact unlimited
  | cons first later induction => exact induction (of_step first unlimited)

theorem start {session : Session} (room : session.terminal.room = none) :
    Unlimited (start setting session) :=
  resume (Session.exists_paint_eq_of_room setting room _) nofun

end Unlimited

end Interactive

end ScriptDesk

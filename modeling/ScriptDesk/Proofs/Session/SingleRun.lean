import ScriptDesk.Proofs.App.Answers
import ScriptDesk.Proofs.Controller.Settling
import ScriptDesk.Proofs.Controller.Undertaking
import ScriptDesk.Proofs.Controller.Usage
import ScriptDesk.Proofs.Session.Dispatching
import ScriptDesk.Session.OneShot

/-!
# Single runs

`RunsOnce` describes a single run under any schedule: the run is started, moves are made
until it is over, and its end is shown.  If everything can be written, an end to which the
executor may come decides the verdict, the machine that is left and the place of the caret.

A run whose executor comes to an end is over after finitely many moves, whatever moves were
made before.  The schedule that lets every task go as far as it can is one such schedule.
-/

namespace ScriptDesk

namespace Ending

variable {grammar : Grammar} {number : TaskNumber} {ending : Ending} {state : RunState}

end Ending

theorem Verdict.scriptFailed_of_diagnostic? {state : RunState} {diagnostic : Diagnostic}
    (reported : state.diagnostic? = some diagnostic) : ofState state = .scriptFailed := by
  obtain ⟨output, exitCode, rfl⟩ := RunState.diagnostic?_eq_some_iff.mp reported
  rfl

namespace App

variable {surroundings : Surroundings} {app : App}

/-- The application with a run that has been started, as far as a controller has brought
it. -/
def withRun (app : App) (surroundings : Surroundings) (controller : Controller) : App :=
  { app with controller := controller, runStarted := some surroundings.now, notices := [] }

/-- The controller after a run of the buffer has been requested. -/
def requested (app : App) (surroundings : Surroundings) : Controller :=
  (app.controller.requestRun app.buffer.text
    (surroundings.taskNumber app.controller.nextRun)).1

theorem answered_run (surroundings : Surroundings) (idle : app.state.isRunning = false) :
    app.answered surroundings .run = app.withRun surroundings (app.requested surroundings) := by
  have started := Controller.requestRun_of_idle app.buffer.text
    (surroundings.taskNumber app.controller.nextRun) idle
  simp only [answered, react, reactToRun, requested, started, withRun]

theorem isRunning_requested (surroundings : Surroundings) (idle : app.state.isRunning = false) :
    (app.requested surroundings).state.isRunning = true := by
  rw [requested, Controller.requestRun_of_idle _ _ idle]
  rfl

/-- The caret goes to the error that the state reports. -/
theorem answered_gotoError (surroundings : Surroundings)
    (clear : app.controller.machine.pendingRequest = none) :
    app.answered surroundings .gotoError =
      { app with
        buffer :=
          (app.state.diagnostic?.map Diagnostic.position).elim app.buffer app.buffer.moveTo
        notices := [] } := by
  cases found : app.state.diagnostic? with
  | none => simp only [answered, react, reactToGoto_of_none found, Option.map_none, Option.elim_none]
  | some diagnostic =>
      simp only [answered, react, reactToGoto_of_some found, Controller.takeRequest_of_none clear,
        Option.map_some, Option.elim_some]

/-- The position that is gone to after a run. -/
def wantedPosition? (app : App) (gotoError : Bool) : Option Position :=
  if gotoError then app.state.diagnostic?.map Diagnostic.position else none

/-- The application after the end of a run has been shown. -/
def concluded (app : App) (gotoError : Bool) : App :=
  { app with
    buffer := (app.wantedPosition? gotoError).elim app.buffer app.buffer.moveTo
    notices := [] }

end App

namespace Session

variable {setting : Setting} {session started last : Session} {gotoError : Bool}
variable {stop : SessionEnd Verdict} {moves : List Controller.Move}

theorem fault_of_failed_dispatch {message : Message} {next : Session} {error : SessionError}
    (failed : session.dispatch setting message = (next, some error)) :
    ∃ fault, error = .terminal fault ∧ session.terminal.room ≠ none := by
  obtain ⟨fault, same⟩ := exists_fault_of_dispatch failed
  refine ⟨fault, same, fun room => ?_⟩
  obtain ⟨taken, dispatched, -⟩ := exists_dispatch_eq_of_room setting room message
  cases failed.symm.trans dispatched

theorem room_of_dispatch {message : Message} {next : Session}
    (dispatched : session.dispatch setting message = (next, none))
    (room : session.terminal.room = none) : next.terminal.room = none := by
  obtain ⟨taken, same, roomStill⟩ := exists_dispatch_eq_of_room setting room message
  cases dispatched.symm.trans same
  exact roomStill

/-- How showing the end of a run can go. -/
inductive Concludes (setting : Setting) (gotoError : Bool) (session : Session) :
    Session × SessionEnd Verdict → Prop where
  | unshown {next : Session} {error : SessionError}
      (shows : session.dispatch setting (.runFinished session.app.state) = (next, some error)) :
      Concludes setting gotoError session (next, .failed error)
  | shown {next : Session}
      (shows : session.dispatch setting (.runFinished session.app.state) = (next, none))
      (unwanted : ¬(gotoError = true ∧ Verdict.ofState session.app.state = .scriptFailed)) :
      Concludes setting gotoError session (next, .done (Verdict.ofState session.app.state))
  | unmoved {shown next : Session} {error : SessionError}
      (shows : session.dispatch setting (.runFinished session.app.state) = (shown, none))
      (wanted : gotoError = true ∧ Verdict.ofState session.app.state = .scriptFailed)
      (goes : shown.dispatch setting .gotoError = (next, some error)) :
      Concludes setting gotoError session (next, .failed error)
  | moved {shown next : Session}
      (shows : session.dispatch setting (.runFinished session.app.state) = (shown, none))
      (wanted : gotoError = true ∧ Verdict.ofState session.app.state = .scriptFailed)
      (goes : shown.dispatch setting .gotoError = (next, none)) :
      Concludes setting gotoError session (next, .done (Verdict.ofState session.app.state))

theorem conclude_eq_iff {result : Session × SessionEnd Verdict} :
    session.conclude setting gotoError = result ↔ Concludes setting gotoError session result := by
  constructor
  · rintro rfl
    cases shows : session.dispatch setting (.runFinished session.app.state) with
    | mk shown error =>
        cases error with
        | some error =>
            simp only [conclude, shows]
            exact .unshown shows
        | none =>
            by_cases wanted :
                gotoError = true ∧ Verdict.ofState session.app.state = .scriptFailed
            · cases goes : shown.dispatch setting .gotoError with
              | mk next error =>
                  cases error with
                  | some error =>
                      simp only [conclude, shows, if_pos wanted, goes]
                      exact .unmoved shows wanted goes
                  | none =>
                      simp only [conclude, shows, if_pos wanted, goes]
                      exact .moved shows wanted goes
            · simp only [conclude, shows, if_neg wanted]
              exact .shown shows wanted
  · intro concludes
    cases concludes with
    | unshown shows => simp only [conclude, shows]
    | shown shows unwanted => simp only [conclude, shows, if_neg unwanted]
    | unmoved shows wanted goes => simp only [conclude, shows, if_pos wanted, goes]
    | moved shows wanted goes => simp only [conclude, shows, if_pos wanted, goes]

/-- The end of a run is shown, unless the terminal has no room for that. -/
theorem Concludes.cases (concludes : Concludes setting gotoError session (last, stop))
    (clear : session.app.controller.machine.pendingRequest = none) :
    (∃ fault, stop = .failed (.terminal fault) ∧ session.terminal.room ≠ none) ∨
      stop = .done (Verdict.ofState session.app.state) ∧
        last.app = session.app.concluded gotoError := by
  cases concludes with
  | unshown shows =>
      obtain ⟨fault, rfl, limited⟩ := fault_of_failed_dispatch shows
      exact .inl ⟨fault, rfl, limited⟩
  | shown shows unwanted =>
      have nowhere : session.app.wantedPosition? gotoError = none := by
        unfold App.wantedPosition?
        split
        case isTrue goto =>
          rw [Option.map_eq_none_iff, Option.eq_none_iff_forall_ne_some]
          intro diagnostic reported
          exact unwanted ⟨goto, Verdict.scriptFailed_of_diagnostic? reported⟩
        case isFalse => rfl
      refine .inr ⟨rfl, ?_⟩
      rw [app_of_dispatch shows, App.concluded, nowhere]
      rfl
  | unmoved shows wanted goes =>
      obtain ⟨fault, rfl, limited⟩ := fault_of_failed_dispatch goes
      exact .inl ⟨fault, rfl, fun room => limited (room_of_dispatch shows room)⟩
  | @moved shown next shows wanted goes =>
      have app : shown.app = { session.app with notices := [] } := app_of_dispatch shows
      have clearStill : shown.app.controller.machine.pendingRequest = none := by
        rw [app]
        exact clear
      refine .inr ⟨rfl, ?_⟩
      rw [app_of_dispatch goes, App.answered_gotoError _ clearStill, app, wanted.1]
      rfl

/-- A single run in which the given moves are made between its start and its end. -/
inductive RunsOnce (setting : Setting) (gotoError : Bool) (session : Session) :
    List Controller.Move → Session × SessionEnd Verdict → Prop where
  | unstarted {next : Session} {error : SessionError}
      (dispatched : session.dispatch setting .run = (next, some error)) :
      RunsOnce setting gotoError session [] (next, .failed error)
  | ended {started : Session} {moves : List Controller.Move} {controller : Controller}
      {result : Session × SessionEnd Verdict}
      (dispatched : session.dispatch setting .run = (started, none))
      (moved : started.app.controller.moveAll? setting.executor moves = some controller)
      (stopped : controller.state.isRunning = false)
      (concluded : (started.withController controller).conclude setting gotoError = result) :
      RunsOnce setting gotoError session moves result

variable {grammar : Grammar} {system : System}

theorem app_of_started (dispatched : session.dispatch setting .run = (started, none))
    (idle : session.app.state.isRunning = false) :
    started.app = session.app.withRun setting.surroundings
      (session.app.requested setting.surroundings) := by
  rw [app_of_dispatch dispatched, App.answered_run _ idle]

theorem runsOnce_of_runOnce (permits : Nat)
    (waitedFor : (session.runOnce setting permits gotoError).2 ≠ .waiting) :
    ∃ moves, RunsOnce setting gotoError session moves
      (session.runOnce setting permits gotoError) := by
  unfold runOnce at waitedFor ⊢
  cases dispatched : session.dispatch setting .run with
  | mk started error =>
      cases error with
      | some error => exact ⟨[], .unstarted dispatched⟩
      | none =>
          obtain ⟨moves, moved⟩ :=
            started.app.controller.await_eq_moveAll? setting.executor permits
          cases running : (started.await setting permits).app.state.isRunning with
          | true => simp only [dispatched, running, if_true, ne_eq, not_true] at waitedFor
          | false =>
              simp only [running, Bool.false_eq_true, if_false]
              exact ⟨moves, .ended dispatched moved running rfl⟩

/-- The session with a terminal that takes everything further. -/
def unlimited (session : Session) : Session :=
  ⟨session.app, ⟨session.terminal.written, none⟩⟩

theorem eq_unlimited {other : Session} (app : other.app = session.app)
    (written : other.terminal.written = session.terminal.written)
    (room : other.terminal.room = none) : other = session.unlimited := by
  obtain ⟨otherApp, otherWritten, limit⟩ := other
  cases app
  cases written
  cases room
  rfl

theorem dispatch_unlimited {message : Message} {next : Session}
    (dispatched : session.dispatch setting message = (next, none)) :
    session.unlimited.dispatch setting message = (next.unlimited, none) := by
  obtain ⟨taken, same, room⟩ :=
    @exists_dispatch_eq_of_room session.unlimited setting rfl message
  have app : taken.app = next.app :=
    (app_of_dispatch same).trans (app_of_dispatch dispatched).symm
  have written : taken.terminal.written = next.terminal.written :=
    (written_of_dispatch same).trans (written_of_dispatch dispatched).symm
  rw [same, eq_unlimited app written room]

theorem Concludes.unlimited {verdict : Verdict}
    (concludes : Concludes setting gotoError session (last, .done verdict)) :
    Concludes setting gotoError session.unlimited (last.unlimited, .done verdict) := by
  cases concludes with
  | shown shows unwanted => exact .shown (dispatch_unlimited shows) unwanted
  | moved shows wanted goes =>
      exact .moved (dispatch_unlimited shows) wanted (dispatch_unlimited goes)

end Session

end ScriptDesk

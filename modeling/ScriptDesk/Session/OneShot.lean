import ScriptDesk.Session

/-!
# A single run

Runs the buffer once, shows how it ended, and goes to the error if that is wanted. The
verdict is on the state in which the run has ended.
-/

namespace ScriptDesk.Session

/-- Waits for the run in flight. -/
def await (setting : Setting) (permits : Nat) (session : Session) : Session :=
  let (controller, _) := session.app.controller.await setting.executor permits
  { session with app := { session.app with controller := controller } }

/-- Shows the state in which the run has ended, and goes to its error if that is wanted. -/
def conclude (setting : Setting) (gotoError : Bool) (session : Session) :
    Session × SessionEnd Verdict :=
  let state := session.app.state
  let verdict := Verdict.ofState state
  match session.dispatch setting (.runFinished state) with
  | (shown, some error) => (shown, .failed error)
  | (shown, none) =>
    if gotoError = true ∧ verdict = .scriptFailed then
      match shown.dispatch setting .gotoError with
      | (moved, some error) => (moved, .failed error)
      | (moved, none) => (moved, .done verdict)
    else (shown, .done verdict)

/-- Runs the buffer once. The executor may pass its gate as often as there are permits. -/
def runOnce (setting : Setting) (permits : Nat) (gotoError : Bool) (session : Session) :
    Session × SessionEnd Verdict :=
  match session.dispatch setting .run with
  | (started, some error) => (started, .failed error)
  | (started, none) =>
    let waited := started.await setting permits
    if waited.app.state.isRunning then (waited, .waiting)
    else waited.conclude setting gotoError

end ScriptDesk.Session

import ScriptDesk.Session

/-!
# Interactive sessions

A session that reads lines while a run may be in flight. It goes on by turns: a line is
read, the input ends, a task takes a step, or the session takes a step of waiting for the
run in flight. Which turn comes next is not fixed; a schedule is a list of turns. As soon
as a step of waiting finds that the run has ended, its state is shown.

At the end of the input a run in flight is waited for, and nothing else is read.
-/

namespace ScriptDesk

/-- How far an interactive session has come. -/
inductive Interactive.Phase where
  /-- Lines are read. -/
  | reading
  /-- The input has ended, and a run is waited for. -/
  | closing
  | ended
  | failed (error : SessionError)
deriving DecidableEq, Repr

/-- An interactive session. -/
structure Interactive where
  session : Session
  phase : Interactive.Phase

/-- What happens next in an interactive session. -/
inductive Turn where
  /-- A line is read, given without its line end. -/
  | line (octets : Octets)
  | endOfInput
  /-- A task takes a step, or the session takes a step of waiting. -/
  | move (move : Controller.Move)

namespace Interactive

/-- The session after a dispatch, in a given phase unless it is to stop. -/
def resume (phase : Phase) : Session × Option SessionError → Interactive
  | (session, some error) => ⟨session, .failed error⟩
  | (session, none) => ⟨session, if session.app.shouldQuit then .ended else phase⟩

/-- Draws the first pane. -/
def start (setting : Setting) (session : Session) : Interactive :=
  resume .reading (session.drawPane setting)

/-- Answers a line of input, if it is text. -/
def readLine (setting : Setting) (session : Session) (octets : Octets) : Interactive :=
  match Utf8.decode octets with
  | .ok line => resume .reading (session.dispatch setting (.ofInput line))
  | .error fault => ⟨session, .failed (.input fault)⟩

/-- Stops reading. -/
def endInput (session : Session) : Interactive :=
  ⟨session, if session.app.state.isRunning then .closing else .ended⟩

/-- Shows a run that has ended. -/
def showFinished (setting : Setting) (phase : Phase) (session : Session) : Interactive :=
  resume (if phase = .closing then .ended else phase)
    (session.dispatch setting (.runFinished session.app.state))

/-- Makes a move of the controller. A run that it ends is shown. -/
def move? (setting : Setting) (interactive : Interactive) (move : Controller.Move) :
    Option Interactive :=
  let session := interactive.session
  (session.app.controller.move? setting.executor move).map fun controller =>
    let moved := { session with app := { session.app with controller := controller } }
    if session.app.state.isRunning = true ∧ controller.state.isRunning = false then
      showFinished setting interactive.phase moved
    else { interactive with session := moved }

/-- Takes a turn, if it is possible. -/
def turn? (setting : Setting) (interactive : Interactive) : Turn → Option Interactive
  | .line octets =>
    if interactive.phase = .reading then
      some (readLine setting interactive.session octets)
    else none
  | .endOfInput =>
    if interactive.phase = .reading then some (endInput interactive.session) else none
  | .move move =>
    if interactive.phase = .reading ∨ interactive.phase = .closing then
      interactive.move? setting move
    else none

/-- Takes the turns of a schedule, if all of them are possible. -/
def follow? (setting : Setting) (interactive : Interactive) :
    List Turn → Option Interactive
  | [] => some interactive
  | turn :: rest => (interactive.turn? setting turn).bind (follow? setting · rest)

def linesRead : List Turn → List Octets
  | [] => []
  | .line octets :: rest => octets :: linesRead rest
  | _ :: rest => linesRead rest

/-- How the session stops if no further turn is possible. -/
def stop (interactive : Interactive) : SessionEnd Unit :=
  match interactive.phase with
  | .ended => .done ()
  | .failed error => .failed error
  | _ => .waiting

end Interactive

end ScriptDesk

import ScriptDesk.App.Update
import ScriptDesk.Terminal

/-!
# Sessions

A session is an application with the terminal that it is shown on. Dispatching a message
updates the application, prints the notices, and draws the pane again where the state has
changed. A write that fails ends the session.
-/

namespace ScriptDesk

/-- What stays the same during a session. -/
structure Setting where
  surroundings : Surroundings
  executor : Executor
  coloured : Bool

/-- Why a session was given up. -/
inductive SessionError where
  | terminal (fault : Fault)
  | input (fault : Utf8.Fault)
deriving DecidableEq, Repr

namespace SessionError

/-- The error in words, from the outermost cause inwards. -/
def chain : SessionError → List Text
  | .terminal fault => ["failed to write to terminal".toList, fault.message]
  | .input fault => ["failed to read input".toList, fault.message.toList]

end SessionError

/-- How a session stops: it comes to an end, an error ends it, or it waits for ever. -/
inductive SessionEnd (Answer : Type) where
  | done (answer : Answer)
  | failed (error : SessionError)
  | waiting
deriving DecidableEq, Repr

/-- An application with its terminal. -/
structure Session where
  app : App
  terminal : Terminal

namespace Session

def paint (setting : Setting) (session : Session) (lines : List ViewLine) :
    Session × Option SessionError :=
  let (terminal, fault) := session.terminal.paint setting.coloured lines
  ({ session with terminal := terminal }, fault.map .terminal)

def noticeLines (notices : List Text) : List ViewLine :=
  notices.flatMap (View.block .plain)

/-- Prints the notices that wait and forgets them. -/
def flushNotices (setting : Setting) (session : Session) : Session × Option SessionError :=
  let (app, notices) := session.app.takeNotices
  { session with app := app }.paint setting (noticeLines notices)

def paneLines (surroundings : Surroundings) (app : App) : List ViewLine :=
  View.outputPane app.state ++ [View.buttonRow app.state, app.statusLine surroundings]

def drawPane (setting : Setting) (session : Session) : Session × Option SessionError :=
  session.paint setting (paneLines setting.surroundings session.app)

/-- Answers a message, prints the notices, and draws the pane if the answer asks for it. -/
def dispatch (setting : Setting) (session : Session) (message : Message) :
    Session × Option SessionError :=
  let (app, followUp) := session.app.update setting.surroundings message
  match { session with app := app }.flushNotices setting with
  | (flushed, some error) => (flushed, some error)
  | (flushed, none) =>
    match followUp with
    | .redrawPane => flushed.drawPane setting
    | _ => (flushed, none)

end Session

end ScriptDesk

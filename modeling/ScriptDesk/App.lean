import ScriptDesk.Buffer
import ScriptDesk.Controller
import ScriptDesk.View
import ScriptDesk.View.Duration
import ScriptDesk.View.ShortPath

/-!
# The application

A controller, a buffer, and what belongs to them: where the text came from, when the last
run was started, and the notices that wait to be printed. Only the latest notices are
kept.
-/

namespace ScriptDesk

/-- What the application sees of the world around it besides the system on which scripts are
executed: the clock in seconds, the home directory, and the numbers that the runtime gives to
the tasks of runs. -/
structure Surroundings where
  now : Nat
  home : Option Text
  taskNumber : RunId → TaskNumber

/-- The state of the application. -/
structure App where
  controller : Controller
  buffer : Buffer
  source : Option Text
  notices : List Text
  runStarted : Option Nat
  shouldQuit : Bool

namespace App

/-- The greatest number of notices that are kept. -/
def noticeLimit : Nat := 64

/-- An application with an empty buffer on a system. -/
def new (grammar : Grammar) (system : System) : App :=
  ⟨.new grammar system, .empty, none, [], none, false⟩

def readFile (app : App) (path : Text) : Except Fault Text :=
  app.controller.system.files.readText path

/-- The last notices, at most as many as are kept. -/
def latest (notices : List Text) : List Text :=
  notices.drop (notices.length - noticeLimit)

def notice (app : App) (text : Text) : App :=
  { app with notices := latest (app.notices ++ [text]) }

/-- Adds notices in their order. -/
def noticeAll (app : App) (texts : List Text) : App :=
  texts.foldl notice app

def takeNotices (app : App) : App × List Text :=
  ({ app with notices := [] }, app.notices)

def state (app : App) : RunState :=
  app.controller.state

/-- What separates the parts of the status line. -/
def statusBar : Text := "  │  ".toList

/-- The number of lines of the buffer, in words. -/
def lineCount (text : Text) : Text :=
  Text.decimal (Text.lines text).length ++ " line(s)".toList

/-- A line and a column in words. -/
def placeText (position : Position) : Text :=
  Text.decimal position.line ++ ':' :: Text.decimal position.column

/-- The part of the status line about the time since the run was started. -/
def elapsedPart (surroundings : Surroundings) : Option Nat → List Text
  | some started => ["⏱ ".toList ++ View.duration (surroundings.now - started)]
  | none => []

/-- The status line: the source, the buffer, the caret, the state, and the time. -/
def statusLine (surroundings : Surroundings) (app : App) : ViewLine :=
  let source := (app.source.map (View.shortPath surroundings.home)).getD "untitled".toList
  ⟨.muted,
    Text.joinWith statusBar
      (["📄 ".toList ++ source, lineCount app.buffer.text,
          "caret ".toList ++ placeText app.buffer.caretPosition, app.state.label.toList] ++
        elapsedPart surroundings app.runStarted)⟩

/-- Keeping the latest of the latest and a few more is keeping the latest of all. -/
theorem latest_latest_append (notices further : List Text) :
    latest (latest notices ++ further) = latest (notices ++ further) := by
  have within : notices.length - noticeLimit ≤ notices.length := Nat.sub_le _ _
  have dropped : latest notices ++ further =
      (notices ++ further).drop (notices.length - noticeLimit) :=
    (List.drop_append_of_le_length within).symm
  unfold latest at dropped ⊢
  rw [dropped, List.drop_drop]
  have same : notices.length - noticeLimit +
        (((notices ++ further).drop (notices.length - noticeLimit)).length - noticeLimit) =
      (notices ++ further).length - noticeLimit := by
    simp only [List.length_drop, List.length_append]
    omega
  rw [same]

end App

end ScriptDesk

import ScriptDesk.Proofs.App.Answers
import ScriptDesk.Proofs.Session.Dispatching

/-!
# The draft

What a session does to the script is a fold over the messages about the script:
the text, where it came from, whether a run has been started since the last
reset, and whether the session is to end.  The controller enters only through
the question whether a run is accepted, and a run that is refused was started
before.  Hence the fold needs no controller.
-/

namespace ScriptDesk

/-- The script that is edited, with what is remembered about it. -/
structure Draft where
  text : Text
  source : Option Text
  started : Bool
  quitting : Bool
deriving DecidableEq, Repr

/-- The draft after a message, given what the files contain. -/
def Draft.after (read : Text → Except Fault Text) (draft : Draft) : Message → Draft
  | .edit line => { draft with text := draft.text ++ line ++ ['\n'] }
  | .load path =>
    match read path with
    | .ok text => { draft with text := text, source := some path }
    | .error _ => draft
  | .run => { draft with started := true }
  | .reset => { draft with text := [], source := none, started := false }
  | .quit => { draft with quitting := true }
  | _ => draft

theorem Draft.quitting_after (read : Text → Except Fault Text) (draft : Draft)
    (message : Message) :
    (draft.after read message).quitting = (draft.quitting || decide (message = .quit)) := by
  cases message with
  | load path => cases contents : read path <;> simp [after, contents]
  | _ => simp [after]

/-- A file that is to be loaded contains what is said of it. -/
def Dispatch.Finds (read : Text → Except Fault Text) (dispatch : Dispatch) : Prop :=
  ∀ path, dispatch.message = .load path → dispatch.app.readFile path = read path

namespace App

def draft (app : App) : Draft :=
  ⟨app.buffer.text, app.source, app.runStarted.isSome, app.shouldQuit⟩

/-- A run in flight has been started. -/
def Started (app : App) : Prop :=
  app.state.isRunning = true → app.runStarted.isSome = true

variable {surroundings : Surroundings} {app next : App} {message : Message}
variable {followUp : FollowUp} {read : Text → Except Fault Text}

theorem Answers.draft_eq (answers : app.Answers surroundings message next followUp)
    (started : app.Started) (found : (Dispatch.mk app message).Finds read) :
    next.draft = app.draft.after read message := by
  cases answers with
  | load readable =>
      have contents := (found _ rfl).symm.trans readable
      simp only [Draft.after, contents]
      rfl
  | notFound unreadable =>
      have contents := (found _ rfl).symm.trans unreadable
      simp only [Draft.after, contents]
  | refuse running => simp only [draft, Draft.after, started running]
  | _ => rfl

theorem Answers.started (answers : app.Answers surroundings message next followUp)
    (started : app.Started) : next.Started := by
  cases answers with
  | accept idle => exact fun _ => rfl
  | reset => exact nofun
  | _ => exact started

theorem Answers.system_eq (answers : app.Answers surroundings message next followUp) :
    next.controller.system = app.controller.system := by
  cases answers with
  | accept idle => rw [Controller.requestRun_of_idle app.buffer.text _ idle]
  | reset =>
      simp only [Controller.requestReset]
      cases app.controller.inFlight <;> rfl
  | _ => rfl

/-- Messages that are not about the script, and loads that find no file. -/
inductive LeavesScript (app : App) : Message → Prop where
  | run : LeavesScript app .run
  | runFinished (state : RunState) : LeavesScript app (.runFinished state)
  | gotoError : LeavesScript app .gotoError
  | listing : LeavesScript app .listing
  | load {path : Text} {fault : Fault} (unreadable : app.readFile path = .error fault) :
      LeavesScript app (.load path)
  | help : LeavesScript app .help
  | quit : LeavesScript app .quit
  | unknown (line : Text) : LeavesScript app (.unknown line)

theorem Answers.script_kept (answers : app.Answers surroundings message next followUp)
    (leaves : app.LeavesScript message) :
    next.buffer.text = app.buffer.text ∧ next.source = app.source := by
  cases leaves with
  | load unreadable =>
      cases answers with
      | load readable =>
          rw [unreadable] at readable
          cases readable
      | notFound => exact ⟨rfl, rfl⟩
  | _ =>
      cases answers
      all_goals exact ⟨rfl, rfl⟩

theorem LeavesScript.kept (leaves : app.LeavesScript message) (surroundings : Surroundings) :
    (app.update surroundings message).1.buffer.text = app.buffer.text ∧
      (app.update surroundings message).1.source = app.source := by
  have kept := (app.answers_react surroundings message).script_kept leaves
  obtain ⟨notices, same⟩ := (app.react surroundings message).app.noticeAll_eq
    (app.react surroundings message).issued.toList
  simp only [update, same]
  exact kept

theorem shouldQuit_of_draft_eq (same : next.draft = app.draft.after read message)
    (staying : app.shouldQuit = false) : next.shouldQuit = decide (message = .quit) := by
  have quitting := congrArg Draft.quitting same
  rw [Draft.quitting_after] at quitting
  exact quitting.trans (by rw [draft, staying, Bool.false_or])

end App

end ScriptDesk

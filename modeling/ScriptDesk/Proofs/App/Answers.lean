import ScriptDesk.App.Update
import ScriptDesk.Proofs.Controller.Tasks

/-!
# What an answer changes

`Answers` lists what the answer to a message can make of the application, its
notices apart, and what is to be done afterwards.  A run is accepted or refused,
a file is found or not, and going to an error moves at most the caret.  Later
results case on this relation instead of opening the answers.
-/

namespace ScriptDesk

namespace App

/-- What becomes of an application that answers a message, and the follow-up. -/
inductive Answers (surroundings : Surroundings) (app : App) :
    Message → App → FollowUp → Prop where
  | edit (line : Text) :
      Answers surroundings app (.edit line)
        { app with buffer := app.buffer.pushLine line } .none
  | load {path text : Text} (readable : app.readFile path = .ok text) :
      Answers surroundings app (.load path)
        { app with buffer := app.buffer.setText text, source := some path } .none
  | notFound {path : Text} {fault : Fault} (unreadable : app.readFile path = .error fault) :
      Answers surroundings app (.load path) app .none
  | accept (idle : app.state.isRunning = false) :
      Answers surroundings app .run
        { app with
          controller := (app.controller.requestRun app.buffer.text
            (surroundings.taskNumber app.controller.nextRun)).1
          runStarted := some surroundings.now }
        .redrawPane
  | refuse (running : app.state.isRunning = true) : Answers surroundings app .run app .none
  | runFinished (state : RunState) : Answers surroundings app (.runFinished state) app .redrawPane
  | reset :
      Answers surroundings app .reset
        { app with
          controller := app.controller.requestReset
          buffer := app.buffer.clear
          source := none
          runStarted := none }
        .redrawPane
  | gotoError (request : Option Position) (caret : Nat) :
      Answers surroundings app .gotoError
        { app with
          controller := { app.controller with
            machine := { app.controller.machine with pendingRequest := request } }
          buffer := { app.buffer with caret := caret } }
        .none
  | listing : Answers surroundings app .listing app .none
  | help : Answers surroundings app .help app .none
  | quit : Answers surroundings app .quit { app with shouldQuit := true } .exit
  | unknown (line : Text) : Answers surroundings app (.unknown line) app .none

variable {surroundings : Surroundings} {app : App}

theorem answers_reactToLoad (path : Text) :
    app.Answers surroundings (.load path) (app.reactToLoad path).app
      (app.reactToLoad path).followUp := by
  unfold reactToLoad
  split
  case h_1 text readable => exact .load readable
  case h_2 fault unreadable => exact .notFound unreadable

theorem answers_reactToRun :
    app.Answers surroundings .run (app.reactToRun surroundings).app
      (app.reactToRun surroundings).followUp := by
  cases running : app.state.isRunning with
  | true =>
      simp only [reactToRun, Controller.requestRun_of_running app.buffer.text _ running]
      exact .refuse running
  | false =>
      have accepted := Controller.requestRun_of_idle app.buffer.text
        (surroundings.taskNumber app.controller.nextRun) running
      have answers : app.Answers surroundings .run _ _ := .accept running
      simp only [reactToRun, accepted] at answers ⊢
      exact answers

theorem reactToGoto_of_none (nowhere : app.state.diagnostic? = none) :
    app.reactToGoto = ⟨app, some noErrorNotice, .none⟩ := by
  have refused : app.controller.machine.state.diagnostic? = none := nowhere
  simp only [reactToGoto, Controller.activateDiagnostic, RunMachine.activateDiagnostic, refused]

/-- The request for the caret is taken as soon as it is made. -/
theorem reactToGoto_of_some {diagnostic : Diagnostic}
    (found : app.state.diagnostic? = some diagnostic) :
    app.reactToGoto =
      ⟨{ app with
          controller := app.controller.takeRequest.1
          buffer := app.buffer.moveTo diagnostic.position },
        some (caretNotice (app.buffer.moveTo diagnostic.position)), .none⟩ := by
  have reported : app.controller.machine.state.diagnostic? = some diagnostic := found
  simp only [reactToGoto, Controller.activateDiagnostic, RunMachine.activateDiagnostic, reported,
    Controller.takeRequest, RunMachine.takeRequest]

theorem answers_reactToGoto :
    app.Answers surroundings .gotoError app.reactToGoto.app app.reactToGoto.followUp := by
  cases found : app.state.diagnostic? with
  | none =>
      rw [reactToGoto_of_none found]
      exact .gotoError app.controller.machine.pendingRequest app.buffer.caret
  | some diagnostic =>
      rw [reactToGoto_of_some found]
      exact .gotoError none (diagnostic.position.offset app.buffer.text)

theorem answers_react (surroundings : Surroundings) (app : App) (message : Message) :
    app.Answers surroundings message (app.react surroundings message).app
      (app.react surroundings message).followUp := by
  cases message with
  | edit line => exact .edit line
  | run => exact answers_reactToRun
  | runFinished state => exact .runFinished state
  | reset => exact .reset
  | gotoError => exact answers_reactToGoto
  | listing => exact .listing
  | load path => exact answers_reactToLoad path
  | help => exact .help
  | quit => exact .quit
  | unknown line => exact .unknown line

end App

end ScriptDesk

import ScriptDesk.App
import ScriptDesk.Message
import ScriptDesk.View.Listing

/-!
# Updating the application

All changes that a user asks for go through `update`, which answers a message at once: it
never waits for a run. A message is answered by a new application, by at most one notice,
and by what is to be done afterwards.
-/

namespace ScriptDesk

/-- What is to be done after a message. -/
inductive FollowUp where
  | none
  /-- The state has changed and is to be shown again. -/
  | redrawPane
  /-- The session is to end. -/
  | exit
deriving DecidableEq, Repr

/-- The answer to a message: the application but for its notices, the notice that is
issued, and the follow-up. -/
structure Reaction where
  app : App
  issued : Option Text
  followUp : FollowUp

namespace App

def loadedNotice (path text : Text) : Text :=
  "📂 Loaded ".toList ++ path ++ " (".toList ++ lineCount text ++ [')']

/-- The notice for a file that cannot be read. -/
def unreadableNotice (path : Text) (fault : Fault) : Text :=
  "❌ Failed to read ".toList ++ path ++ ": ".toList ++ fault.message

/-- The notice for a run that is refused because one is in flight. -/
def refusedNotice : Text := "⏳ A run is already in progress.".toList

/-- The notice where there is no error to go to. -/
def noErrorNotice : Text := "No error location to jump to.".toList

/-- The notice for a caret that was moved to an error. -/
def caretNotice (buffer : Buffer) : Text :=
  "➡ Caret at ".toList ++ placeText buffer.caretPosition ++ " (offset ".toList ++
    Text.decimal buffer.caret ++ ")  ".toList ++ buffer.caretLine

def unknownNotice (line : Text) : Text :=
  "❓ Unknown command: ".toList ++ line ++ "  (type :help)".toList

/-- Appends a line to the buffer. -/
def reactToEdit (app : App) (line : Text) : Reaction :=
  ⟨{ app with buffer := app.buffer.pushLine line }, none, .none⟩

/-- Replaces the buffer with a file, if it can be read. -/
def reactToLoad (app : App) (path : Text) : Reaction :=
  match app.readFile path with
  | .ok text =>
    ⟨{ app with buffer := app.buffer.setText text, source := some path },
      some (loadedNotice path text), .none⟩
  | .error fault => ⟨app, some (unreadableNotice path fault), .none⟩

/-- Starts a run of the buffer, unless one is in flight. -/
def reactToRun (surroundings : Surroundings) (app : App) : Reaction :=
  let number := surroundings.taskNumber app.controller.nextRun
  match app.controller.requestRun app.buffer.text number with
  | (controller, true) =>
    ⟨{ app with controller := controller, runStarted := some surroundings.now }, none,
      .redrawPane⟩
  | (_, false) => ⟨app, some refusedNotice, .none⟩

/-- Clears the buffer and forgets the last run. -/
def reactToReset (app : App) : Reaction :=
  ⟨{ app with
      controller := app.controller.requestReset, buffer := app.buffer.clear,
      source := none, runStarted := none },
    none, .redrawPane⟩

/-- Moves the caret to the error of a failed run. The request is taken at once. -/
def reactToGoto (app : App) : Reaction :=
  match app.controller.activateDiagnostic with
  | (_, false) => ⟨app, some noErrorNotice, .none⟩
  | (activated, true) =>
    match activated.takeRequest with
    | (controller, some request) =>
      let buffer := app.buffer.moveTo request
      ⟨{ app with controller := controller, buffer := buffer }, some (caretNotice buffer),
        .none⟩
    | (controller, none) => ⟨{ app with controller := controller }, none, .none⟩

def react (surroundings : Surroundings) (app : App) : Message → Reaction
  | .edit line => app.reactToEdit line
  | .run => app.reactToRun surroundings
  | .runFinished _ => ⟨app, none, .redrawPane⟩
  | .reset => app.reactToReset
  | .gotoError => app.reactToGoto
  | .listing => ⟨app, some (View.plainText (View.bufferView app.buffer)), .none⟩
  | .load path => app.reactToLoad path
  | .help => ⟨app, some Message.helpText, .none⟩
  | .quit => ⟨{ app with shouldQuit := true }, none, .exit⟩
  | .unknown line => ⟨app, some (unknownNotice line), .none⟩

/-- Answers a message and keeps the notice that is issued. -/
def update (surroundings : Surroundings) (app : App) (message : Message) : App × FollowUp :=
  let reaction := app.react surroundings message
  (reaction.app.noticeAll reaction.issued.toList, reaction.followUp)

end App

end ScriptDesk

import ScriptDesk.Proofs.App.Answers
import ScriptDesk.Proofs.Controller.StateChange
import ScriptDesk.Proofs.Session.Dispatching

/-!
# Applications that have been used

Messages, notices that are handed out, and ends of runs reach the parts of an application
one by one.  `InStep` says how the parts stay in step.  Going to an error is the one
message that requests the caret, and it takes the request at once, so that none is pending
between messages.  Everything else is kept by the machine, or by the buffer for itself.
-/

namespace ScriptDesk

namespace App

/-- An application that has been used, with the notices issued since notices were last
handed out.  Between its messages tasks go on, ends of runs are waited for by whatever
executors, and anything may happen to the system from elsewhere. -/
inductive Reached (grammar : Grammar) : App → List Text → Prop where
  | new (system : System) : Reached grammar (.new grammar system) []
  | update {app : App} {issued : List Text} (reached : Reached grammar app issued)
      (surroundings : Surroundings) (message : Message) :
      Reached grammar (app.update surroundings message).1
        (issued ++ (app.react surroundings message).issued.toList)
  | takeNotices {app : App} {issued : List Text} (reached : Reached grammar app issued) :
      Reached grammar app.takeNotices.1 []
  | move {app : App} {issued : List Text} {controller : Controller}
      (reached : Reached grammar app issued) (executor : Executor) (move : Controller.Move)
      (moved : app.controller.move? executor move = some controller) :
      Reached grammar { app with controller := controller } issued
  | elsewhere {app : App} {issued : List Text} (reached : Reached grammar app issued)
      (system : System) :
      Reached grammar { app with controller := { app.controller with system := system } } issued

/-- The parts of an application are in step, and so are its notices with those issued. -/
structure InStep (grammar : Grammar) (app : App) (issued : List Text) : Prop where
  machine : app.controller.machine.Consistent grammar
  noRequest : app.controller.machine.pendingRequest = none
  started : app.runStarted.isSome = app.controller.machine.snapshot.isSome
  caret_le : app.buffer.caret ≤ app.buffer.text.length
  notices : app.notices = latest issued

variable {grammar : Grammar} {app : App} {issued : List Text} {surroundings : Surroundings}

theorem notices_noticeAll (app : App) (issued texts : List Text)
    (notices : app.notices = latest issued) :
    (app.noticeAll texts).notices = latest (issued ++ texts) := by
  induction texts generalizing app issued with
  | nil => rwa [List.append_nil]
  | cons text texts induction =>
      have one : (app.notice text).notices = latest (issued ++ [text]) := by
        rw [notice, notices, latest_latest_append]
      have all := induction (app.notice text) (issued ++ [text]) one
      rwa [List.append_assoc] at all

namespace InStep

theorem new (grammar : Grammar) (system : System) : InStep grammar (.new grammar system) [] :=
  ⟨.new grammar, rfl, rfl, Nat.le_refl 0, rfl⟩

theorem withController (inStep : InStep grammar app issued) {controller : Controller}
    (ends : app.controller.machine.Ends controller.machine) :
    InStep grammar { app with controller := controller } issued where
  machine := ends.consistent inStep.machine
  noRequest := ends.kept.2.trans inStep.noRequest
  started := inStep.started.trans (congrArg Option.isSome ends.kept.1.symm)
  caret_le := inStep.caret_le
  notices := inStep.notices

theorem answered {message : Message} {next : App} {followUp : FollowUp}
    (inStep : InStep grammar app issued) (other : message ≠ .gotoError)
    (answers : app.Answers surroundings message next followUp) : InStep grammar next issued := by
  cases answers with
  | edit line => exact { inStep with caret_le := Nat.le_refl _ }
  | load readable => exact { inStep with caret_le := Nat.le_refl _ }
  | accept idle =>
      rw [Controller.requestRun_of_idle app.buffer.text _ idle]
      have begun := inStep.machine.beginRun app.controller.nextRun app.buffer.text
      rw [RunMachine.beginRun_of_idle _ _ idle] at begun
      exact ⟨begun, rfl, rfl, inStep.caret_le, inStep.notices⟩
  | reset =>
      rw [Controller.requestReset_eq]
      exact ⟨inStep.machine.reset, rfl, rfl, Nat.le_refl 0, inStep.notices⟩
  | gotoError request caret => exact absurd rfl other
  | _ => exact { inStep with }

theorem gotoError (inStep : InStep grammar app issued) :
    InStep grammar app.reactToGoto.app issued := by
  cases found : app.state.diagnostic? with
  | none =>
      rw [reactToGoto_of_none found]
      exact inStep
  | some diagnostic =>
      rw [reactToGoto_of_some found, Controller.takeRequest_of_none inStep.noRequest]
      exact { inStep with caret_le := Position.offset_le_length _ _ }

theorem react (inStep : InStep grammar app issued) (surroundings : Surroundings)
    (message : Message) : InStep grammar (app.react surroundings message).app issued := by
  by_cases goto : message = .gotoError
  · subst goto
    exact inStep.gotoError
  · exact inStep.answered goto (app.answers_react surroundings message)

theorem noticeAll (inStep : InStep grammar app issued) (texts : List Text) :
    InStep grammar (app.noticeAll texts) (issued ++ texts) := by
  have last := app.notices_noticeAll issued texts inStep.notices
  obtain ⟨notices, same⟩ := app.noticeAll_eq texts
  rw [same] at last ⊢
  exact { inStep with notices := last }

theorem update (inStep : InStep grammar app issued) (surroundings : Surroundings)
    (message : Message) :
    InStep grammar (app.update surroundings message).1
      (issued ++ (app.react surroundings message).issued.toList) :=
  (inStep.react surroundings message).noticeAll _

theorem snapshot_iff (inStep : InStep grammar app issued) :
    app.state ≠ .idle ↔ app.controller.machine.snapshot.isSome = true := by
  rw [Option.isSome_iff_ne_none]
  exact not_congr inStep.machine.idle_iff

theorem started_iff (inStep : InStep grammar app issued) :
    app.runStarted.isSome = true ↔ app.state ≠ .idle := by
  rw [inStep.started, inStep.snapshot_iff]

end InStep

theorem suffix_latest (notices : List Text) : latest notices <:+ notices :=
  List.drop_suffix _ _

theorem length_latest (notices : List Text) :
    (latest notices).length = min notices.length noticeLimit := by
  rw [latest, List.length_drop]
  omega

theorem Reached.inStep (reached : Reached grammar app issued) : InStep grammar app issued := by
  induction reached with
  | new system => exact .new grammar system
  | update _ surroundings message induction => exact induction.update surroundings message
  | takeNotices _ induction => exact { induction with notices := rfl }
  | move _ _ _ moved induction => exact induction.withController (Controller.ends_of_move? moved)
  | elsewhere _ system induction => exact induction.withController .none

/-- However an application has been used, no request for the caret is pending, the start of
a run is remembered exactly if the state is not idle and exactly if there is a snapshot,
the caret is in the text, and the notices are the last of those that were issued. -/
theorem Reached.parts_in_step (reached : Reached grammar app issued) :
    app.controller.machine.pendingRequest = none ∧
    (app.runStarted.isSome = true ↔ app.state ≠ .idle) ∧
    (app.state ≠ .idle ↔ app.controller.machine.snapshot.isSome = true) ∧
    app.buffer.caret ≤ app.buffer.text.length ∧
    (∀ surroundings state, app.update surroundings (.runFinished state) = (app, .redrawPane)) ∧
    app.notices <:+ issued ∧ app.notices.length = min issued.length 64 := by
  have inStep := reached.inStep
  refine ⟨inStep.noRequest, inStep.started_iff, inStep.snapshot_iff, inStep.caret_le,
    fun _ _ => rfl, ?_, ?_⟩
  · rw [inStep.notices]
    exact suffix_latest issued
  · rw [inStep.notices]
    exact length_latest issued

/-- An application whose run has failed with an output. -/
def failedApp (grammar : Grammar) (output : Text) : App :=
  { App.new grammar (.idle ⟨[], []⟩) with
    controller :=
      { Controller.new grammar (.idle ⟨[], []⟩) with
        machine := ⟨grammar, .ofOutcome grammar (.ok (.failure output 1)), none,
          some ['a', '\n'], none⟩
        tasks := [⟨0, 0, ['a', '\n'], .sent, false⟩]
        nextRun := 1 }
    buffer := .ofText ['a', '\n']
    runStarted := some 7 }

theorem reached_failedApp (grammar : Grammar) (output : Text) :
    Reached grammar (failedApp grammar output) [] := by
  let executor : Executor := .fixed fun _ => ⟨false, .reports (.ok (.failure output 1))⟩
  have fresh : Reached grammar _ [] := .new (.idle ⟨[], []⟩)
  have begun := (fresh.update ⟨7, none, id⟩ (.edit ['a'])).update ⟨7, none, id⟩ .run
  have started := begun.move executor (.task 0 .start) rfl
  have proceeded := started.move executor (.task 0 .proceed) rfl
  have sent := proceeded.move executor (.task 0 .send) rfl
  exact sent.move executor .receive rfl

/-- After a run that has failed, help is wanted once more than notices are kept. -/
theorem parts_in_step_helped :
    ∃ app issued, Reached (fun _ => none) app issued ∧ issued.length = 65 ∧
      app.notices.length = 64 ∧ app.notices <:+ issued ∧ app.runStarted.isSome = true ∧
      app.state ≠ .idle := by
  have helped : ∀ count, ∃ app, Reached (fun _ => none) app
      (List.replicate count Message.helpText) ∧ app.runStarted = some 7 := by
    intro count
    induction count with
    | zero => exact ⟨_, reached_failedApp _ [], rfl⟩
    | succ count induction =>
        obtain ⟨app, reached, started⟩ := induction
        refine ⟨(app.update ⟨8, none, id⟩ .help).1, ?_, started⟩
        rw [List.replicate_succ']
        exact reached.update ⟨8, none, id⟩ .help
  obtain ⟨app, reached, started⟩ := helped 65
  obtain ⟨-, begun, -, -, -, last, length⟩ := reached.parts_in_step
  have remembered : app.runStarted.isSome = true := by rw [started]; rfl
  rw [List.length_replicate] at length
  exact ⟨app, _, reached, List.length_replicate, length, last, remembered, begun.mp remembered⟩

end App

end ScriptDesk

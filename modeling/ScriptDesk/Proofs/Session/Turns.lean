import ScriptDesk.Proofs.Controller.StateChange
import ScriptDesk.Session.Interactive

/-!
# Turns of an interactive session

`Step` lists what a turn can do, together with the messages that it hands to the
application: a line of input hands over its message, and a move that ends the
run in flight hands over that the run has finished.  Every other turn hands
over nothing and keeps the state.  `Follows` collects these messages along a
schedule.  The two relations describe exactly `turn?` and `follow?`, so that
later results case on them.
-/

namespace ScriptDesk

/-- A message that is handed to the application, and the application as it is then. -/
structure Dispatch where
  app : App
  message : Message

/-- The message says that a run has finished. -/
def Dispatch.isCompletion (dispatch : Dispatch) : Bool :=
  match dispatch.message with
  | .runFinished _ => true
  | _ => false

namespace Session

def withController (session : Session) (controller : Controller) : Session :=
  { session with app := { session.app with controller := controller } }

end Session

namespace Interactive

open RunState (KeptOrEnded)

variable {setting : Setting}

/-- What a turn can do to a session, and the messages that it hands over. -/
inductive Step (setting : Setting) :
    Interactive → Turn → List Dispatch → Interactive → Prop where
  | line {session : Session} {octets : Octets} {line : Text}
      (decoded : Utf8.decode octets = .ok line) :
      Step setting ⟨session, .reading⟩ (.line octets) [⟨session.app, .ofInput line⟩]
        (resume .reading (session.dispatch setting (.ofInput line)))
  | illFormed {session : Session} {octets : Octets} {fault : Utf8.Fault}
      (refused : Utf8.decode octets = .error fault) :
      Step setting ⟨session, .reading⟩ (.line octets) [] ⟨session, .failed (.input fault)⟩
  | endOfInput (session : Session) :
      Step setting ⟨session, .reading⟩ .endOfInput [] (endInput session)
  | wait {session : Session} {phase : Phase} {move : Controller.Move}
      {controller : Controller} (going : phase = .reading ∨ phase = .closing)
      (moved : session.app.controller.move? setting.executor move = some controller)
      (kept : controller.state = session.app.state) :
      Step setting ⟨session, phase⟩ (.move move) []
        ⟨session.withController controller, phase⟩
  | finish {session : Session} {phase : Phase} {move : Controller.Move}
      {controller : Controller} (going : phase = .reading ∨ phase = .closing)
      (moved : session.app.controller.move? setting.executor move = some controller)
      (running : session.app.state.isRunning = true)
      (stopped : controller.state.isRunning = false) :
      Step setting ⟨session, phase⟩ (.move move)
        [⟨(session.withController controller).app, .runFinished controller.state⟩]
        (resume (if phase = .closing then .ended else phase)
          ((session.withController controller).dispatch setting
            (.runFinished controller.state)))

theorem step_move_iff {session : Session} {phase : Phase} {move : Controller.Move}
    {next : Interactive} (going : phase = .reading ∨ phase = .closing) :
    (∃ dispatched, Step setting ⟨session, phase⟩ (.move move) dispatched next) ↔
      (Interactive.mk session phase).move? setting move = some next := by
  constructor
  · rintro ⟨dispatched, step⟩
    cases step with
    | @wait _ _ _ controller _ moved kept =>
        have notLeft : ¬(session.app.state.isRunning = true ∧
            controller.state.isRunning = false) := by
          rw [kept]
          rintro ⟨running, stopped⟩
          rw [running] at stopped
          cases stopped
        simp only [Interactive.move?, moved, Option.map_some, if_neg notLeft]
        rfl
    | finish _ moved running stopped =>
        simp only [Interactive.move?, moved, Option.map_some,
          if_pos (And.intro running stopped)]
        rfl
  · intro taken
    simp only [Interactive.move?, Option.map_eq_some_iff] at taken
    obtain ⟨controller, moved, rfl⟩ := taken
    split
    case isTrue left => exact ⟨_, .finish going moved left.1 left.2⟩
    case isFalse notLeft =>
      have kept := (Controller.keptOrEnded_of_move? moved).eq_of_not_left notLeft
      exact ⟨_, .wait going moved kept⟩

theorem turn?_eq_some_iff {interactive next : Interactive} {turn : Turn} :
    interactive.turn? setting turn = some next ↔
      ∃ dispatched, Step setting interactive turn dispatched next := by
  obtain ⟨session, phase⟩ := interactive
  cases turn with
  | line octets =>
      constructor
      · intro taken
        simp only [turn?, Option.ite_none_right_eq_some, Option.some.injEq] at taken
        obtain ⟨rfl, rfl⟩ := taken
        unfold readLine
        split
        case h_1 line decoded => exact ⟨_, .line decoded⟩
        case h_2 fault refused => exact ⟨_, .illFormed refused⟩
      · rintro ⟨dispatched, step⟩
        cases step with
        | line decoded => simp [turn?, readLine, decoded]
        | illFormed refused => simp [turn?, readLine, refused]
  | endOfInput =>
      constructor
      · intro taken
        simp only [turn?, Option.ite_none_right_eq_some, Option.some.injEq] at taken
        obtain ⟨rfl, rfl⟩ := taken
        exact ⟨_, .endOfInput session⟩
      · rintro ⟨dispatched, step⟩
        cases step with
        | endOfInput => rfl
  | move move =>
      constructor
      · intro taken
        simp only [turn?, Option.ite_none_right_eq_some] at taken
        exact (step_move_iff taken.1).mpr taken.2
      · rintro ⟨dispatched, step⟩
        have going : phase = .reading ∨ phase = .closing := by
          cases step with
          | wait going => exact going
          | finish going => exact going
        simp only [turn?, if_pos going]
        exact (step_move_iff going).mp ⟨dispatched, step⟩

/-- The turns of a schedule, with the messages that they hand over. -/
inductive Follows (setting : Setting) :
    Interactive → List Turn → List Dispatch → Interactive → Prop where
  | nil (interactive : Interactive) : Follows setting interactive [] [] interactive
  | cons {interactive next last : Interactive} {turn : Turn} {turns : List Turn}
      {dispatched trace : List Dispatch} (first : Step setting interactive turn dispatched next)
      (later : Follows setting next turns trace last) :
      Follows setting interactive (turn :: turns) (dispatched ++ trace) last

theorem follow?_eq_some_iff {interactive last : Interactive} {turns : List Turn} :
    interactive.follow? setting turns = some last ↔
      ∃ trace, Follows setting interactive turns trace last := by
  induction turns generalizing interactive with
  | nil =>
      constructor
      · intro followed
        cases followed
        exact ⟨[], .nil _⟩
      · rintro ⟨trace, follows⟩
        cases follows
        rfl
  | cons turn turns induction =>
      simp only [follow?, Option.bind_eq_some_iff]
      constructor
      · rintro ⟨next, taken, followed⟩
        obtain ⟨dispatched, first⟩ := turn?_eq_some_iff.mp taken
        obtain ⟨trace, later⟩ := induction.mp followed
        exact ⟨_, .cons first later⟩
      · rintro ⟨trace, follows⟩
        cases follows with
        | cons first later =>
            exact ⟨_, turn?_eq_some_iff.mpr ⟨_, first⟩, induction.mpr ⟨_, later⟩⟩

theorem Step.going {interactive next : Interactive} {turn : Turn}
    {dispatched : List Dispatch} (step : Step setting interactive turn dispatched next) :
    interactive.phase = .reading ∨ interactive.phase = .closing := by
  cases step with
  | line => exact .inl rfl
  | illFormed => exact .inl rfl
  | endOfInput => exact .inl rfl
  | wait going => exact going
  | finish going => exact going

/-- A session that has ended takes no further turns. -/
theorem Follows.eq_of_stopped {interactive last : Interactive} {turns : List Turn}
    {trace : List Dispatch} (follows : Follows setting interactive turns trace last)
    (reading : interactive.phase ≠ .reading) (closing : interactive.phase ≠ .closing) :
    turns = [] ∧ trace = [] ∧ last = interactive := by
  cases follows with
  | nil => exact ⟨rfl, rfl, rfl⟩
  | cons first _ =>
      rcases first.going with going | going
      · exact (reading going).elim
      · exact (closing going).elim

/-- A session that does not stop by an error has not done so before. -/
theorem Follows.phase_ne_failed {interactive last : Interactive} {turns : List Turn}
    {trace : List Dispatch} {error : SessionError}
    (follows : Follows setting interactive turns trace last)
    (sound : last.phase ≠ .failed error) : interactive.phase ≠ .failed error := by
  intro failed
  obtain ⟨-, -, rfl⟩ := follows.eq_of_stopped (by simp [failed]) (by simp [failed])
  exact sound failed

end Interactive

end ScriptDesk

import ScriptDesk.Proofs.Controller.Preservation

/-!
# Controllers in use

Someone uses a controller by calls.  A call for the next completion waits: from
its beginning until it returns or is given up no other call is possible, and
only in this time the controller takes steps of waiting.  Tasks take their
steps at any time.

A history records the calls that have returned, with what they have returned
and the state that is seen afterwards, and a call for a run with the number that
the runtime gives to its task.  Which step comes next is not fixed, so the steps
of a usage are a relation.
-/

namespace ScriptDesk

namespace Controller

/-- A call that returns at once. -/
inductive Request where
  | requestRun (script : Text) (number : TaskNumber)
  | requestReset
  | activateDiagnostic
  | takeRequest
deriving DecidableEq, Repr

/-- What a call returns. -/
inductive Reply where
  | accepted (yes : Bool)
  | position (position : Option Position)
  | ended (state : RunState)
  | nothing
deriving DecidableEq, Repr

def serve (controller : Controller) : Request → Controller × Reply
  | .requestRun script number =>
    let (next, accepted) := controller.requestRun script number
    (next, .accepted accepted)
  | .requestReset => (controller.requestReset, .nothing)
  | .activateDiagnostic =>
    let (next, accepted) := controller.activateDiagnostic
    (next, .accepted accepted)
  | .takeRequest =>
    let (next, position) := controller.takeRequest
    (next, .position position)

/-- A call of the controller. -/
inductive Call where
  | request (request : Request)
  | nextCompletion
deriving DecidableEq, Repr

/-- A call that has returned, what it has returned, and the state seen afterwards. -/
structure Observation where
  call : Call
  reply : Reply
  state : RunState
deriving DecidableEq, Repr

/-- A controller, and whether someone waits on it for the next completion. -/
structure Usage where
  controller : Controller
  waiting : Bool

namespace Usage

/-- One step of a usage, with the call that returns by it, if one does. -/
inductive Step (executor : Executor) :
    Usage → Option Observation → Usage → Prop where
  | serve (controller : Controller) (request : Request) :
      Step executor ⟨controller, false⟩
        (some ⟨.request request, (controller.serve request).2,
          (controller.serve request).1.state⟩)
        ⟨(controller.serve request).1, false⟩
  | wait (controller : Controller) :
      Step executor ⟨controller, false⟩ none ⟨controller, true⟩
  /-- The future of the call is dropped, which is possible until the run has ended. -/
  | giveUp {controller : Controller}
      (running : controller.state.isRunning = true) :
      Step executor ⟨controller, true⟩ none ⟨controller, false⟩
  | task {controller next : Controller} {waiting : Bool} {run : RunId}
      {step : TaskStep}
      (moved : controller.move? executor (.task run step) = some next) :
      Step executor ⟨controller, waiting⟩ none ⟨next, waiting⟩
  | poll {controller next : Controller} {move : Move}
      (moved : controller.move? executor move = some next) :
      Step executor ⟨controller, true⟩ none ⟨next, true⟩
  | nextCompletion {controller : Controller}
      (stopped : controller.state.isRunning = false) :
      Step executor ⟨controller, true⟩
        (some ⟨.nextCompletion, .ended controller.state, controller.state⟩)
        ⟨controller, false⟩

/-- A row of steps, with the history of the calls that return by them. -/
inductive Follows (executor : Executor) :
    Usage → List Observation → Usage → Prop where
  | refl (usage : Usage) : Follows executor usage [] usage
  | step {usage next last : Usage} {seen : Option Observation}
      {history : List Observation}
      (first : Step executor usage seen next)
      (later : Follows executor next history last) :
      Follows executor usage (seen.toList ++ history) last

/-- A step by which no call returns, before a row of steps. -/
theorem Follows.silently {executor : Executor} {usage next last : Usage}
    {history : List Observation} (first : Step executor usage none next)
    (later : Follows executor next history last) :
    Follows executor usage history last := by
  have row := Follows.step first later
  exact row

/-- A row of one step, by which a call returns. -/
theorem Follows.returning {executor : Executor} {usage next : Usage}
    {seen : Observation} (step : Step executor usage (some seen) next) :
    Follows executor usage [seen] next := by
  have row := Follows.step step (Follows.refl next)
  exact row

theorem Follows.trans {executor : Executor} {usage middle last : Usage}
    {earlier later : List Observation}
    (first : Follows executor usage earlier middle)
    (second : Follows executor middle later last) :
    Follows executor usage (earlier ++ later) last := by
  induction first with
  | refl => exact second
  | step first _ induction =>
      rw [List.append_assoc]
      exact .step first (induction second)

end Usage

/-- A controller can come to be another one while it is in use. -/
def Reaches (executor : Executor) (start controller : Controller) : Prop :=
  ∃ history waiting,
    Usage.Follows executor ⟨start, false⟩ history ⟨controller, waiting⟩

namespace Coherent

variable {grammar : Grammar} {executor : Executor}

theorem serve {controller : Controller} (coherent : Coherent grammar controller)
    (request : Request) : Coherent grammar (controller.serve request).1 := by
  cases request with
  | requestRun script number => exact coherent.requestRun script number
  | requestReset => exact coherent.requestReset
  | activateDiagnostic => exact coherent.activateDiagnostic
  | takeRequest => exact coherent.takeRequest

theorem move? {controller next : Controller} (coherent : Coherent grammar controller)
    {move : Move} (moved : controller.move? executor move = some next) :
    Coherent grammar next :=
  coherent.moves (coherent.move?_eq_some_iff.mp moved)

theorem step {usage next : Usage} (coherent : Coherent grammar usage.controller)
    {seen : Option Observation} (step : Usage.Step executor usage seen next) :
    Coherent grammar next.controller := by
  cases step with
  | serve controller request => exact coherent.serve request
  | wait => exact coherent
  | giveUp => exact coherent
  | task moved => exact coherent.move? moved
  | poll moved => exact coherent.move? moved
  | nextCompletion => exact coherent

theorem follows {usage last : Usage} (coherent : Coherent grammar usage.controller)
    {history : List Observation}
    (followed : Usage.Follows executor usage history last) :
    Coherent grammar last.controller := by
  induction followed with
  | refl => exact coherent
  | step first _ induction => exact induction (coherent.step first)

/-- Every controller that a new one can come to be is coherent. -/
theorem reaches {system : System} {controller : Controller}
    (reached : Reaches executor (Controller.new grammar system) controller) :
    Coherent grammar controller := by
  obtain ⟨history, waiting, followed⟩ := reached
  exact (new grammar system).follows followed

end Coherent

end Controller

end ScriptDesk

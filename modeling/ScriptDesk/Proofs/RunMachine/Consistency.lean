import ScriptDesk.RunMachine

/-!
# Consistency of the run machine

The state, the identifier of the run in flight, the snapshot and the pending
request are changed one by one.  `Consistent` says how they stay in step.  Every
operation preserves it, with whatever identifiers and outcomes it is used, so
it holds after every history of a new machine.

The ends of a run touch neither the snapshot nor the pending request.  Their
part of the invariant rests on what a running machine satisfies: it has a
snapshot, and no request is pending.
-/

namespace ScriptDesk

theorem RunState.diagnostic?_eq_some_iff
    {state : RunState} {diagnostic : Diagnostic} :
    state.diagnostic? = some diagnostic ↔
      ∃ output exitCode,
        state = .failed (.script output exitCode (some diagnostic)) := by
  constructor
  · intro found
    cases state with
    | idle => simp [diagnostic?] at found
    | running => simp [diagnostic?] at found
    | succeeded output exitCode => simp [diagnostic?] at found
    | failed failure =>
        cases failure with
        | script output exitCode reported =>
            have reportedEq : reported = some diagnostic := by
              simpa [diagnostic?, RunFailure.diagnostic?] using found
            exact ⟨output, exitCode, by rw [reportedEq]⟩
        | launch reason => simp [diagnostic?, RunFailure.diagnostic?] at found
        | timedOut milliseconds =>
            simp [diagnostic?, RunFailure.diagnostic?] at found
  · rintro ⟨output, exitCode, rfl⟩
    rfl

namespace RunMachine

def begun (machine : RunMachine) (run : RunId) (script : Text) : RunMachine :=
  { machine with
    state := .running, currentRun := some run, snapshot := some script,
    pendingRequest := none }

theorem beginRun_of_idle {machine : RunMachine} (run : RunId) (script : Text)
    (idle : machine.state.isRunning = false) :
    machine.beginRun run script = (machine.begun run script, true) := by
  simp [beginRun, begun, idle]

/-- The machine after the end of the run in flight. -/
def ended (machine : RunMachine) (state : RunState) : RunMachine :=
  { machine with state := state, currentRun := none }

theorem isInFlight_iff {machine : RunMachine} {run : RunId} :
    machine.isInFlight run = true ↔
      machine.state = .running ∧ machine.currentRun = some run := by
  simp [isInFlight, RunState.isRunning_iff]

theorem finish_of_inFlight {machine : RunMachine} {run : RunId} (state : RunState)
    (running : machine.state = .running)
    (current : machine.currentRun = some run) :
    machine.finish run state = (machine.ended state, true) := by
  have inFlight := isInFlight_iff.mpr ⟨running, current⟩
  simp [finish, inFlight, ended]

theorem finish_of_other {machine : RunMachine} {run : RunId} (state : RunState)
    (other : machine.currentRun ≠ some run) :
    machine.finish run state = (machine, false) := by
  apply finish_of_not_inFlight
  rw [← Bool.not_eq_true, isInFlight_iff]
  exact fun inFlight => other inFlight.2

/-- The fields of a machine that searches outputs with a grammar are in step. -/
structure Consistent (grammar : Grammar) (machine : RunMachine) : Prop where
  grammar_eq : machine.grammar = grammar
  running_iff : machine.state = .running ↔ machine.currentRun.isSome = true
  idle_iff : machine.state = .idle ↔ machine.snapshot = none
  /-- A failed script has the diagnostic of its output. -/
  diagnostic_eq : ∀ output exitCode diagnostic,
    machine.state = .failed (.script output exitCode diagnostic) →
      diagnostic = grammar output
  /-- A request is pending only for the diagnostic that the state reports. -/
  request_reported : ∀ position, machine.pendingRequest = some position →
    ∃ output exitCode diagnostic,
      machine.state = .failed (.script output exitCode (some diagnostic)) ∧
        diagnostic.line = position.line ∧ diagnostic.column = position.column

/-- A state in which a run can end: it is neither of the states without a result, and a
diagnostic in it is the one of the output. -/
structure Concluding (grammar : Grammar) (state : RunState) : Prop where
  not_running : state ≠ .running
  not_idle : state ≠ .idle
  diagnostic_eq : ∀ output exitCode diagnostic,
    state = .failed (.script output exitCode diagnostic) →
      diagnostic = grammar output

theorem concluding_ofOutcome (grammar : Grammar) (outcome : Outcome) :
    Concluding grammar (.ofOutcome grammar outcome) := by
  constructor
  · intro running
    have stopped := RunState.isRunning_ofOutcome grammar outcome
    rw [running] at stopped
    cases stopped
  · intro idle
    rcases outcome with error | ⟨output, exitCode⟩ | ⟨output, exitCode⟩ <;> cases idle
  · intro output exitCode diagnostic failed
    rcases outcome with error | ⟨written, code⟩ | ⟨written, code⟩
    · cases error <;> cases failed
    · cases failed
    · cases failed
      rfl

theorem concluding_launch (grammar : Grammar) (reason : Text) :
    Concluding grammar (.failed (.launch reason)) := by
  constructor <;> intros <;> simp_all

namespace Consistent

variable {grammar : Grammar} {machine : RunMachine}

theorem new (grammar : Grammar) : Consistent grammar (RunMachine.new grammar) := by
  constructor <;> simp [RunMachine.new]

/-- While a run is in flight there is nothing to request the caret for. -/
theorem pendingRequest_eq_none (consistent : Consistent grammar machine)
    (running : machine.state = .running) : machine.pendingRequest = none := by
  cases pending : machine.pendingRequest with
  | none => rfl
  | some position =>
      obtain ⟨output, exitCode, diagnostic, failed, -⟩ :=
        consistent.request_reported position pending
      rw [running] at failed
      cases failed

theorem beginRun (consistent : Consistent grammar machine)
    (run : RunId) (script : Text) :
    Consistent grammar (machine.beginRun run script).1 := by
  unfold RunMachine.beginRun
  split
  · exact consistent
  · constructor <;> simp [consistent.grammar_eq]

theorem ended (consistent : Consistent grammar machine)
    (running : machine.state = .running)
    {state : RunState} (concluding : Concluding grammar state) :
    Consistent grammar (machine.ended state) := by
  have noRequest := consistent.pendingRequest_eq_none running
  have snapshot : machine.snapshot ≠ none := by
    intro absent
    have idle := consistent.idle_iff.mpr absent
    rw [running] at idle
    cases idle
  constructor
  · exact consistent.grammar_eq
  · simp [RunMachine.ended, concluding.not_running]
  · simp [RunMachine.ended, concluding.not_idle, snapshot]
  · exact concluding.diagnostic_eq
  · simp [RunMachine.ended, noRequest]

theorem finish (consistent : Consistent grammar machine)
    (run : RunId) {state : RunState} (concluding : Concluding grammar state) :
    Consistent grammar (machine.finish run state).1 := by
  cases inFlight : machine.isInFlight run with
  | true =>
      obtain ⟨running, current⟩ := isInFlight_iff.mp inFlight
      rw [finish_of_inFlight state running current]
      exact consistent.ended running concluding
  | false =>
      rw [finish_of_not_inFlight state inFlight]
      exact consistent

theorem complete (consistent : Consistent grammar machine)
    (run : RunId) (outcome : Outcome) :
    Consistent grammar (machine.complete run outcome).1 := by
  unfold RunMachine.complete
  rw [consistent.grammar_eq]
  exact consistent.finish run (concluding_ofOutcome grammar outcome)

theorem abandon (consistent : Consistent grammar machine)
    (run : RunId) (reason : Text) :
    Consistent grammar (machine.abandon run reason).1 :=
  consistent.finish run (concluding_launch grammar reason)

theorem reset (consistent : Consistent grammar machine) :
    Consistent grammar machine.reset := by
  have fresh := new machine.grammar
  rw [consistent.grammar_eq] at fresh
  unfold RunMachine.reset
  rw [consistent.grammar_eq]
  exact fresh

theorem activateDiagnostic (consistent : Consistent grammar machine) :
    Consistent grammar machine.activateDiagnostic.1 := by
  unfold RunMachine.activateDiagnostic
  split
  case h_1 diagnostic found =>
    obtain ⟨output, exitCode, failed⟩ :=
      RunState.diagnostic?_eq_some_iff.mp found
    constructor
    · exact consistent.grammar_eq
    · exact consistent.running_iff
    · exact consistent.idle_iff
    · exact consistent.diagnostic_eq
    · intro position pending
      have same : diagnostic.position = position := by simpa using pending
      subst position
      exact ⟨output, exitCode, diagnostic, failed, rfl, rfl⟩
  case h_2 => exact consistent

theorem takeRequest (consistent : Consistent grammar machine) :
    Consistent grammar machine.takeRequest.1 := by
  constructor
  · exact consistent.grammar_eq
  · exact consistent.running_iff
  · exact consistent.idle_iff
  · exact consistent.diagnostic_eq
  · intro position pending
    simp [RunMachine.takeRequest] at pending

theorem apply (consistent : Consistent grammar machine) (operation : Operation) :
    Consistent grammar (machine.apply operation).1 := by
  cases operation with
  | beginRun run script => exact consistent.beginRun run script
  | complete run outcome => exact consistent.complete run outcome
  | abandon run reason => exact consistent.abandon run reason
  | reset => exact consistent.reset
  | activateDiagnostic => exact consistent.activateDiagnostic
  | takeRequest => exact consistent.takeRequest

theorem applyAll (consistent : Consistent grammar machine)
    (operations : List Operation) :
    Consistent grammar (machine.applyAll operations) := by
  induction operations generalizing machine with
  | nil => exact consistent
  | cons operation operations induction =>
      exact induction (consistent.apply operation)

end Consistent

/-- Whatever a new machine has been used for, its fields are in step. -/
theorem consistent_after_history
    (grammar : Grammar) (operations : List Operation) :
    Consistent grammar ((new grammar).applyAll operations) :=
  (Consistent.new grammar).applyAll operations

end RunMachine

end ScriptDesk

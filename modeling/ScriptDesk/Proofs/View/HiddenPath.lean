import ScriptDesk.Proofs.Diagnostic.LastPlace
import ScriptDesk.Proofs.RunMachine.Consistency
import ScriptDesk.View

/-!
# The path of the script is hidden

Two outputs that show the same report differ in what stands before it, the path
of the script's file included, and in the lines that follow it.  A run that
fails with either of them leaves the same diagnostic, and through it the same
pane and the same request for the caret.  The output itself stays in the state,
but nothing shows it where a diagnostic was found.
-/

namespace ScriptDesk

open Diagnostic (Ordinal OpensOnce Shows)

namespace RunMachine

/-- The machine after a run that has failed with an output. -/
def afterFailure (machine : RunMachine) (run : RunId) (exitCode : Int) (output : Text) :
    RunMachine :=
  (machine.complete run (.ok (.failure output exitCode))).1

variable {machine : RunMachine} {run : RunId}

theorem state_afterFailure (inFlight : machine.isInFlight run = true) (exitCode : Int)
    (output : Text) :
    (machine.afterFailure run exitCode output).state =
      .failed (.script output exitCode (machine.grammar output)) := by
  obtain ⟨running, current⟩ := isInFlight_iff.mp inFlight
  rw [afterFailure, complete, finish_of_inFlight _ running current]
  rfl

/-- A diagnostic that the state reports is where the caret is requested. -/
theorem takeRequest_activateDiagnostic {diagnostic : Diagnostic}
    (reported : machine.state.diagnostic? = some diagnostic) :
    machine.activateDiagnostic.2 = true ∧
      machine.activateDiagnostic.1.takeRequest.2 = some diagnostic.position := by
  simp only [activateDiagnostic, reported, takeRequest, and_self]

/-- What is shown of a failed script with a diagnostic, and where the caret goes, does not
depend on what stands around the report in the output. -/
theorem script_path_hidden {extension : Text} {grammar : Grammar} {report : Diagnostic.Report}
    {limit line column : Nat} {first second : Text}
    (built : Diagnostic.grammar? limit extension = some grammar) (single : '\n' ∉ extension)
    (configured : machine.grammar = grammar) (inFlight : machine.isInFlight run = true)
    (lineOrdinal : Ordinal report.line line) (columnOrdinal : Ordinal report.column column)
    (messageSingle : '\n' ∉ report.message)
    (once : OpensOnce extension (report.text extension))
    (one : Shows extension report first) (other : Shows extension report second)
    (exitCode : Int) :
    (∃ diagnostic,
      (machine.afterFailure run exitCode first).state =
        .failed (.script first exitCode (some diagnostic)) ∧
      (machine.afterFailure run exitCode second).state =
        .failed (.script second exitCode (some diagnostic))) ∧
    View.outputPane (machine.afterFailure run exitCode first).state =
      View.outputPane (machine.afterFailure run exitCode second).state ∧
    ∃ request,
      (machine.afterFailure run exitCode first).activateDiagnostic.2 = true ∧
      (machine.afterFailure run exitCode first).activateDiagnostic.1.takeRequest.2 =
        some request ∧
      (machine.afterFailure run exitCode second).activateDiagnostic.2 = true ∧
      (machine.afterFailure run exitCode second).activateDiagnostic.1.takeRequest.2 =
        some request := by
  obtain ⟨diagnostic, found⟩ : ∃ diagnostic, ∀ output, Shows extension report output →
      (machine.afterFailure run exitCode output).state =
        .failed (.script output exitCode (some diagnostic)) := by
    refine ⟨⟨line, column, Text.dropTrailing (· = '\r') report.message⟩, ?_⟩
    intro output shown
    have read : grammar output =
        some ⟨line, column, Text.dropTrailing (· = '\r') report.message⟩ :=
      Diagnostic.grammar_of_shows built single shown messageSingle once lineOrdinal
        columnOrdinal (Diagnostic.dropTrailing_eq_iff.mp rfl)
    rw [state_afterFailure inFlight, configured, read]
  have firstState := found first one
  have secondState := found second other
  have samePane : View.outputPane (machine.afterFailure run exitCode first).state =
      View.outputPane (machine.afterFailure run exitCode second).state := by
    rw [firstState, secondState]
    rfl
  have firstRequest := takeRequest_activateDiagnostic
    (RunState.diagnostic?_eq_some_iff.mpr ⟨_, _, firstState⟩)
  have secondRequest := takeRequest_activateDiagnostic
    (RunState.diagnostic?_eq_some_iff.mpr ⟨_, _, secondState⟩)
  exact ⟨⟨diagnostic, firstState, secondState⟩, samePane, diagnostic.position,
    firstRequest.1, firstRequest.2, secondRequest.1, secondRequest.2⟩

def started : RunMachine :=
  ((new (Diagnostic.grammar "kts".toList)).beginRun 0 ['s']).1

def bareOutput : Text := "a.kts:2:5: error: x\r".toList

/-- The same report behind a warning and a look-alike, with another line after it. -/
def framedOutput : Text := "note\n/tmp/b.kts:9:9: error: c.kts:2:5: error: x\r\nmore".toList

/-- The look-alike before the report is not seen. -/
theorem script_path_hidden_look_alike :
    View.outputPane (started.afterFailure 0 1 bareOutput).state =
        View.outputPane (started.afterFailure 0 1 framedOutput).state ∧
      ∃ request,
        (started.afterFailure 0 1 bareOutput).activateDiagnostic.1.takeRequest.2 =
          some request ∧
        (started.afterFailure 0 1 framedOutput).activateDiagnostic.1.takeRequest.2 =
          some request := by
  have line : Ordinal ['2'] 2 := ⟨List.all_eq_true.mp rfl, rfl, by decide, by decide⟩
  have column : Ordinal ['5'] 5 := ⟨List.all_eq_true.mp rfl, rfl, by decide, by decide⟩
  have once : OpensOnce "kts".toList
      ((Diagnostic.Report.mk ['2'] ['5'] ['x', '\r']).text "kts".toList) :=
    Diagnostic.opensOnce_of_not_mem (by decide)
  have bare : Shows "kts".toList ⟨['2'], ['5'], ['x', '\r']⟩ bareOutput :=
    ⟨[], ['a'], [], rfl, Diagnostic.quiet_iff.mpr ⟨.inl rfl, by decide⟩, by decide, .inl rfl⟩
  have framed : Shows "kts".toList ⟨['2'], ['5'], ['x', '\r']⟩ framedOutput :=
    ⟨"note\n".toList, "/tmp/b.kts:9:9: error: c".toList, "\nmore".toList, rfl,
      Diagnostic.quiet_iff.mpr ⟨.inr rfl, by decide⟩, by decide, .inr rfl⟩
  have built : Diagnostic.grammar? 3 "kts".toList = some (Diagnostic.grammar "kts".toList) := rfl
  have configured : started.grammar = Diagnostic.grammar "kts".toList := rfl
  have inFlight : started.isInFlight 0 = true := rfl
  obtain ⟨-, pane, request, -, firstRequest, -, secondRequest⟩ :=
    script_path_hidden built (by decide) configured inFlight line column (by decide) once bare
      framed 1
  exact ⟨pane, request, firstRequest, secondRequest⟩

end RunMachine

end ScriptDesk

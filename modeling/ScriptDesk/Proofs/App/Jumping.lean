import ScriptDesk.Proofs.App.Reached
import ScriptDesk.Proofs.Buffer.CaretLine
import ScriptDesk.Proofs.Diagnostic.Recognition

/-!
# Jumping to an error

The place of an error is that of an old snapshot, and the buffer has moved on.  Going to
the error resolves the place in the text as it is now.  What the notice tells is read off
the buffer again, so it is about the place where the caret has come to, which is that of
the error exactly if the text still has it.
-/

namespace ScriptDesk

namespace App

/-- An application whose caret has been moved, with a further notice. -/
def jumped (app : App) (caret : Nat) (text : Text) : App :=
  { app with
    buffer := { app.buffer with caret := caret }
    notices := latest (app.notices ++ [text]) }

/-- Going to the error puts the caret at an offset and issues one notice. -/
structure Jumps (surroundings : Surroundings) (app : App) (caret : Nat) (text : Text) :
    Prop where
  issued : (app.react surroundings .gotoError).issued = some text
  update : app.update surroundings .gotoError = (app.jumped caret text, .none)

/-- A notice says where the caret is: its line and column, its offset, and the line that
it is on. -/
def TellsCaret (text : Text) (caret : Nat) (told : Text) : Prop :=
  ∃ line, (Text.segments text)[(Position.ofOffset text caret).line - 1]? = some line ∧
    told = "➡ Caret at ".toList ++
      (Text.decimal (Position.ofOffset text caret).line ++
        ':' :: Text.decimal (Position.ofOffset text caret).column) ++
      " (offset ".toList ++ Text.decimal caret ++ ")  ".toList ++ line

variable {grammar : Grammar} {app : App} {issued : List Text}

theorem jumps_of_none (nowhere : app.state.diagnostic? = none) (surroundings : Surroundings) :
    app.Jumps surroundings app.buffer.caret noErrorNotice := by
  have reaction := reactToGoto_of_none nowhere
  constructor
  · simp only [react, reaction]
  · simp only [update, react, reaction]
    rfl

theorem jumps_of_some {diagnostic : Diagnostic} (found : app.state.diagnostic? = some diagnostic)
    (noRequest : app.controller.machine.pendingRequest = none) (surroundings : Surroundings) :
    app.Jumps surroundings (diagnostic.position.offset app.buffer.text)
      (caretNotice (app.buffer.moveTo diagnostic.position)) := by
  have reaction := reactToGoto_of_some found
  rw [Controller.takeRequest_of_none noRequest] at reaction
  constructor
  · simp only [react, reaction]
  · simp only [update, react, reaction]
    rfl

theorem tellsCaret_moveTo (position : Position) (buffer : Buffer)
    (fits : buffer.text.length < Text.wordLimit) :
    TellsCaret buffer.text (position.offset buffer.text) (caretNotice (buffer.moveTo position)) :=
  ⟨_, (buffer.moveTo position).segments_caretLine fits (position.offset_le_length _), rfl⟩

/-- Going to the error of a failed run moves the caret to where the place of the error is in
the present text and tells where that is.  Nothing else changes, and going there once more
changes nothing but that it is told again. -/
theorem goto_error_jumps {limit : Nat} {extension : Text}
    (built : Diagnostic.grammar? limit extension = some grammar)
    (reached : Reached grammar app issued)
    (fits : app.buffer.text.length < Text.wordLimit) (surroundings : Surroundings) :
    ∃ caret told, app.Jumps surroundings caret told ∧
      (app.jumped caret told).controller.machine.pendingRequest = none ∧
      ((∀ output exitCode diagnostic,
          app.state ≠ .failed (.script output exitCode (some diagnostic))) →
        caret = app.buffer.caret) ∧
      (∀ output exitCode diagnostic,
        app.state = .failed (.script output exitCode (some diagnostic)) →
        caret = diagnostic.position.offset app.buffer.text ∧ caret ≤ app.buffer.text.length ∧
          TellsCaret app.buffer.text caret told ∧
          (Position.ofOffset app.buffer.text caret = diagnostic.position ↔
            diagnostic.line ≤ (Text.segments app.buffer.text).length ∧
              diagnostic.column ≤ Position.lineLength app.buffer.text diagnostic.line + 1)) ∧
      ∀ later, (app.jumped caret told).Jumps later caret told := by
  have inStep := reached.inStep
  cases found : app.state.diagnostic? with
  | none =>
      have still (caret : Nat) (told : Text) :
          (app.jumped caret told).state.diagnostic? = none := found
      refine ⟨_, _, jumps_of_none found surroundings, inStep.noRequest, fun _ => rfl, ?_,
        jumps_of_none (still _ _)⟩
      intro output exitCode diagnostic failed
      rw [failed] at found
      cases found
  | some diagnostic =>
      have still (caret : Nat) (told : Text) :
          (app.jumped caret told).state.diagnostic? = some diagnostic := found
      refine ⟨_, _, jumps_of_some found inStep.noRequest surroundings, inStep.noRequest, ?_, ?_,
        jumps_of_some (still _ _) inStep.noRequest⟩
      · intro unreported
        obtain ⟨output, exitCode, failed⟩ := RunState.diagnostic?_eq_some_iff.mp found
        exact absurd failed (unreported output exitCode diagnostic)
      · intro output exitCode reported failed
        obtain rfl : diagnostic = reported := by
          rw [failed] at found
          exact (Option.some.inj found).symm
        have searched := inStep.machine.diagnostic_eq output exitCode (some diagnostic) failed
        obtain ⟨linePos, columnPos⟩ := Diagnostic.positive_of_grammar? built searched.symm
        refine ⟨rfl, Position.offset_le_length _ _, tellsCaret_moveTo _ _ fits, ?_⟩
        rw [Position.ofOffset_offset_iff fits]
        exact ⟨fun within => ⟨within.line_le, within.column_le⟩,
          fun ⟨lineLe, columnLe⟩ => ⟨linePos, lineLe, columnPos, columnLe⟩⟩

/-- An application whose run has failed in the second line, with a line typed since. -/
def editedApp : App :=
  ((failedApp (Diagnostic.grammar "kts".toList) "x.kts:2:9: error: y\n".toList).update
    ⟨8, none, id⟩ (.edit "bc".toList)).1

/-- The second line is there by now, but it is too short, so that the caret is put at the
end of the text. -/
theorem goto_error_jumps_clamped :
    editedApp.buffer.text = "a\nbc\n".toList ∧
      ∃ caret told, editedApp.Jumps ⟨9, none, id⟩ caret told ∧ caret = 5 ∧
        TellsCaret "a\nbc\n".toList caret told ∧
        Position.ofOffset "a\nbc\n".toList caret ≠ ⟨2, 9⟩ := by
  have reached : Reached (Diagnostic.grammar "kts".toList) editedApp [] :=
    (reached_failedApp _ _).update ⟨8, none, id⟩ (.edit "bc".toList)
  have text : editedApp.buffer.text = "a\nbc\n".toList := by decide +kernel
  have fits : editedApp.buffer.text.length < Text.wordLimit := by decide +kernel
  have failed : editedApp.state =
      .failed (.script "x.kts:2:9: error: y\n".toList 1 (some ⟨2, 9, ['y']⟩)) := by
    decide +kernel
  have built : Diagnostic.grammar? 3 "kts".toList = some (Diagnostic.grammar "kts".toList) :=
    if_pos (by decide)
  obtain ⟨caret, told, jumps, -, -, located, -⟩ :=
    goto_error_jumps built reached fits ⟨9, none, id⟩
  obtain ⟨isOffset, -, tells, returns⟩ := located _ _ _ failed
  rw [text] at isOffset tells returns
  have clamped : caret = 5 := isOffset.trans (by decide +kernel)
  refine ⟨text, caret, told, jumps, clamped, tells, ?_⟩
  intro same
  exact absurd (returns.mp same).2 (by decide +kernel)

end App

end ScriptDesk

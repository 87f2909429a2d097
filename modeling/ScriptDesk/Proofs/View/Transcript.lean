import ScriptDesk.Proofs.Text.Lines
import ScriptDesk.Terminal

/-!
# Outputs that are shown as they are

Behind its header, the pane of a run without a diagnostic shows the lines of the output
in one tone.  Painted without colour they are the output again.  All that is lost is the
carriage return of a line break of two characters, and all that is added is a line feed
behind a last line that has none.
-/

namespace ScriptDesk

namespace View

/-- Lines show an output as it is, in one tone. -/
structure Transcribes (tone : Tone) (output : Text) (shown : List ViewLine) : Prop where
  single : ∀ line ∈ shown, '\n' ∉ line.text
  tone_eq : ∀ line ∈ shown, line.tone = tone
  paint_eq : ∀ written, (Terminal.mk written none).paint false shown =
    (⟨written ++ (Text.shortBreaks output ++ Text.missingBreak output), none⟩, none)

theorem pieces_uncoloured (line : ViewLine) :
    Terminal.pieces false line = [line.text, ['\n']] := by
  unfold Terminal.pieces
  cases line.tone.colour? <;> rfl

theorem painted_uncoloured (shown : List ViewLine) :
    Terminal.painted false shown = (shown.map ViewLine.text).flatMap (· ++ ['\n']) := by
  induction shown with
  | nil => rfl
  | cons line shown induction =>
      rw [List.map_cons, List.flatMap_cons, ← induction, Terminal.painted, Terminal.painted,
        List.flatMap_cons, List.flatten_append, pieces_uncoloured]
      simp

theorem transcribes_block (tone : Tone) (output : Text) :
    Transcribes tone output (block tone output) := by
  constructor
  · intro line member
    obtain ⟨text, isLine, rfl⟩ := List.mem_map.mp member
    exact Text.not_mem_of_mem_lines isLine
  · intro line member
    obtain ⟨text, -, rfl⟩ := List.mem_map.mp member
    rfl
  · intro written
    have texts : (block tone output).map ViewLine.text = Text.lines output :=
      List.map_map.trans (List.map_id _)
    rw [Terminal.paint_unlimited, painted_uncoloured, texts, Text.flatMap_lines]

/-- A pane shows the output of a run that has succeeded, or has failed without a diagnostic,
as it is, behind a header of the same tone. -/
theorem output_shown_without_loss (output : Text) (exitCode : Int) :
    (∃ shown, outputPane (.succeeded output exitCode) =
        [⟨.success, "✅ Exit Code: ".toList ++ Text.signedDecimal exitCode⟩] ++ shown ∧
      Transcribes .success output shown) ∧
    ∃ shown, outputPane (.failed (.script output exitCode none)) =
        [⟨.error, "❌ Error occurred".toList⟩,
          ⟨.error, "Exit Code: ".toList ++ Text.signedDecimal exitCode⟩] ++ shown ∧
      Transcribes .error output shown := by
  constructor
  · exact ⟨block .success output, rfl, transcribes_block .success output⟩
  · exact ⟨block .error output, rfl, transcribes_block .error output⟩

/-- Of two carriage returns before a line feed one is kept, and so is one at the end. -/
example : Terminal.painted false (block .plain "a\r\r\n\n b \r".toList) =
    "a\r\n\n b \r\n".toList := by decide

end View

end ScriptDesk

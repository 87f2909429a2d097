import ScriptDesk.Proofs.Buffer.CaretLine
import ScriptDesk.Proofs.Text.Boundary
import ScriptDesk.Proofs.Text.Segments

/-!
# Buffers that have been edited

Whatever is done to a buffer leaves the caret within the text.  So the caret has a line,
and the octet where that line begins is a boundary: cutting the text there never fails,
and the cut leaves the line of the caret and what follows it.  The length of a text is a
word, as for all offsets.
-/

namespace ScriptDesk

namespace Buffer

/-- A buffer that has come out of an empty one by changes. -/
inductive Reached : Buffer → Prop where
  | empty : Reached .empty
  | apply {buffer : Buffer} (reached : Reached buffer) (edit : Edit) :
      Reached (buffer.apply edit)

variable {buffer : Buffer}

theorem caret_apply_le (buffer : Buffer) (edit : Edit) :
    (buffer.apply edit).caret ≤ (buffer.apply edit).text.length := by
  cases edit with
  | setText text => exact Nat.le_refl _
  | pushLine line => exact Nat.le_refl _
  | clear => exact Nat.le_refl _
  | moveTo request => exact Position.offset_le_length request buffer.text

theorem Reached.caret_le (reached : Reached buffer) : buffer.caret ≤ buffer.text.length := by
  cases reached with
  | empty => exact Nat.le_refl _
  | apply reached edit => exact caret_apply_le _ edit

/-- The line of the caret is cut out at a boundary, and it is the line that the position of
the caret names.  The octets before any offset of any text are those of the characters
before it. -/
theorem caret_line_cut_at_boundary (reached : Reached buffer)
    (fits : buffer.text.length < Text.wordLimit) :
    (Utf8.Boundary buffer.text buffer.caretLineStart ∧
      buffer.caretLineStart ≤ (Utf8.encode buffer.text).length ∧
      (Utf8.dropOctets? buffer.caretLineStart buffer.text).isSome) ∧
    (1 ≤ buffer.caretPosition.line ∧
      (buffer.text.splitOn '\n')[buffer.caretPosition.line - 1]? = some buffer.caretLine) ∧
    (1 ≤ buffer.caretPosition.column ∧
      buffer.caretPosition.column - 1 ≤ buffer.caretLine.length) ∧
    ∀ (text : Text) (offset : Nat),
      Utf8.Boundary text (Position.octetIndex text offset) ∧
      (Utf8.encode text).take (Position.octetIndex text offset) =
        Utf8.encode (text.take (min offset text.length)) := by
  have boundary : Utf8.Boundary buffer.text buffer.caretLineStart :=
    Position.boundary_octetIndex buffer.text _
  have within := within_caretPosition reached.caret_le
  have found := segments_caretLine fits reached.caret_le
  have columnLe := within.column_le
  rw [Position.lineLength, List.getD_eq_getElem?_getD, found, Option.getD_some] at columnLe
  rw [Text.segments_eq_splitOn] at found
  refine ⟨⟨boundary, boundary.le_length, Utf8.isSome_dropOctets?_iff.mpr boundary⟩,
    ⟨within.line_pos, found⟩, ⟨within.column_pos, Nat.sub_le_of_le_add columnLe⟩, ?_⟩
  intro text offset
  refine ⟨Position.boundary_octetIndex text offset, ?_⟩
  rw [Position.take_octetIndex, ← List.take_eq_take_min]

/-- A buffer with characters of two and four octets. -/
def edited : Buffer :=
  ((empty.apply (.setText "ñ\n".toList)).apply (.pushLine "x🚀é".toList)).apply
    (.moveTo ⟨2, 3⟩)

/-- The caret is behind a character of four octets. -/
theorem caret_line_cut_at_boundary_edited :
    Reached edited ∧ edited.text.length < Text.wordLimit ∧
      Utf8.Boundary edited.text 3 ∧ ¬ Utf8.Boundary edited.text 5 ∧
      (edited.text.splitOn '\n')[1]? = some "x🚀é".toList ∧
      (Utf8.encode edited.text).take 8 = Utf8.encode "ñ\nx🚀".toList := by
  have reached : Reached edited := ((Reached.empty.apply _).apply _).apply _
  have fits : edited.text.length < Text.wordLimit := by decide
  obtain ⟨⟨boundary, -, -⟩, ⟨-, line⟩, -, octets⟩ := caret_line_cut_at_boundary reached fits
  refine ⟨reached, fits, boundary, ?_, line, (octets edited.text 4).2⟩
  rw [← Utf8.isSome_dropOctets?_iff]
  decide

end Buffer

end ScriptDesk

import ScriptDesk.Buffer
import ScriptDesk.Proofs.Position.Correspondence

/-!
# The line of the caret

The line that the caret is on is cut out of the text where that line begins.  The
characters of the lines before it lead to that place, and from there the text goes on with
the segment of the line, up to its line feed.
-/

namespace ScriptDesk

namespace Position

theorem takeWhile_drop_charactersOfLines {text segment : Text} {index : Nat}
    (found : (Text.segments text)[index]? = some segment) :
    (text.drop (charactersOfLines text index)).takeWhile (· ≠ '\n') = segment := by
  induction text generalizing index segment with
  | nil =>
      cases index with
      | zero => exact Option.some.inj found
      | succ index => cases found
  | cons character text induction =>
      by_cases lineFeed : character = '\n'
      · subst lineFeed
        cases index with
        | zero => exact Option.some.inj found
        | succ index =>
            rw [charactersOfLines_lineFeed, List.drop_succ_cons]
            exact induction (by simpa [Text.segments] using found)
      · obtain ⟨first, others, shape, shapeAfter⟩ := segments_cons_of_ne lineFeed text
        rw [shapeAfter] at found
        rw [shape] at induction
        cases index with
        | zero =>
            have rest : (text.drop (charactersOfLines text 0)).takeWhile (· ≠ '\n') = first :=
              induction rfl
            obtain rfl := Option.some.inj found
            simpa [charactersOfLines, lineFeed] using rest
        | succ index =>
            rw [charactersOfLines_cons_of_ne lineFeed, List.drop_succ_cons]
            exact induction found

/-- A line begins behind the characters of the lines before it. -/
theorem offset_line_start {text : Text} {position : Position} (fits : text.length < Text.wordLimit)
    (within : Within text position) :
    (Position.mk position.line 1).offset text = charactersOfLines text (position.line - 1) := by
  have start : Within text ⟨position.line, 1⟩ :=
    ⟨within.line_pos, within.line_le, Nat.le_refl 1, Nat.le_add_left 1 _⟩
  obtain ⟨offset, places⟩ := start.exists_places
  rw [places.offset_eq fits, ← places.before_eq]
  rfl

end Position

namespace Buffer

variable {buffer : Buffer}

theorem within_caretPosition (inside : buffer.caret ≤ buffer.text.length) :
    Position.Within buffer.text buffer.caretPosition :=
  (Position.places_ofOffset inside).within

/-- The text of the caret's line is the segment with the number of its line. -/
theorem segments_caretLine (fits : buffer.text.length < Text.wordLimit)
    (inside : buffer.caret ≤ buffer.text.length) :
    (Text.segments buffer.text)[buffer.caretPosition.line - 1]? = some buffer.caretLine := by
  have within := within_caretPosition inside
  have isLine : buffer.caretPosition.line - 1 < (Text.segments buffer.text).length := by
    have positive := within.line_pos
    have present := within.line_le
    omega
  have found := List.getElem?_eq_getElem isLine
  have cut := Position.takeWhile_drop_charactersOfLines found
  rw [found, caretLine, caretLineStart, Position.octetIndex, Utf8.dropOctets?_size_take,
    Position.offset_line_start fits within]
  exact congrArg some cut.symm

end Buffer

end ScriptDesk

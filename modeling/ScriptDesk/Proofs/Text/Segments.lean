import ScriptDesk.Diagnostic.Decomposition

/-!
# Segments as splitting at line feeds

The segments of a text are what the splitting of a list at an element gives, so
that the laws of splitting hold of them: a line feed parts the segments before
it from those behind it, and none of them has one.  Of complete lines, the last
segment is empty and the others are the lines.
-/

namespace ScriptDesk

namespace Text

theorem extendFirst_eq_modifyHead {pieces : List Text} (nonempty : pieces ≠ [])
    (character : Char) : extendFirst character pieces = pieces.modifyHead (character :: ·) := by
  cases pieces with
  | nil => exact (nonempty rfl).elim
  | cons piece pieces => rfl

theorem segments_eq_splitOn (text : Text) : segments text = text.splitOn '\n' := by
  induction text with
  | nil => rfl
  | cons character rest induction =>
      rw [segments, List.splitOn_cons_eq_if_modifyHead,
        extendFirst_eq_modifyHead (segments_ne_nil rest), induction]
      simp only [beq_iff_eq]

/-- Pieces in front of an empty one all have a line feed behind them. -/
theorem joinWith_concat_nil (pieces : List Text) :
    joinWith ['\n'] (pieces ++ [[]]) = pieces.flatMap (· ++ ['\n']) := by
  induction pieces with
  | nil => rfl
  | cons piece pieces induction =>
      rw [List.flatMap_cons, ← induction]
      cases pieces <;> rfl

theorem segments_of_single {line : Text} (single : '\n' ∉ line) : segments line = [line] := by
  rw [segments_eq_splitOn, List.splitOn_eq_singleton single]

theorem segments_append_lineFeed (before after : Text) :
    segments (before ++ '\n' :: after) = segments before ++ segments after := by
  simp only [segments_eq_splitOn, List.splitOn_append_cons_self]

/-- The segments that a line feed ends. -/
def closedLines (text : Text) : List Text :=
  (segments text).dropLast

/-- Complete lines and what follows them do not share a segment. -/
theorem segments_append_of_complete {text : Text} (complete : Diagnostic.CompleteLines text)
    (rest : Text) : segments (text ++ rest) = closedLines text ++ segments rest := by
  rcases complete with rfl | closed
  · rfl
  · obtain ⟨before, rfl⟩ := List.getLast?_eq_some_iff.mp closed
    rw [closedLines, List.append_assoc, List.singleton_append, segments_append_lineFeed,
      segments_append_lineFeed, segments, List.dropLast_concat]

theorem segments_of_complete {text : Text} (complete : Diagnostic.CompleteLines text) :
    segments text = closedLines text ++ [[]] := by
  have whole := segments_append_of_complete complete []
  rwa [List.append_nil] at whole

theorem flatMap_closedLines {text : Text} (complete : Diagnostic.CompleteLines text) :
    (closedLines text).flatMap (· ++ ['\n']) = text := by
  rw [← joinWith_concat_nil, ← segments_of_complete complete, joinWith_segments]

theorem not_mem_of_mem_segments {text segment : Text} (member : segment ∈ segments text) :
    '\n' ∉ segment := by
  induction text generalizing segment with
  | nil => simp_all [segments]
  | cons character rest induction =>
      unfold segments at member
      split at member
      case isTrue =>
        rcases List.mem_cons.mp member with rfl | later
        · exact List.not_mem_nil
        · exact induction later
      case isFalse different =>
        cases shape : segments rest with
        | nil => exact (segments_ne_nil rest shape).elim
        | cons first others =>
            rw [shape] at member induction
            rcases List.mem_cons.mp member with rfl | later
            · rw [List.mem_cons, not_or]
              exact ⟨Ne.symm different, induction List.mem_cons_self⟩
            · exact induction (List.mem_cons_of_mem _ later)

end Text

end ScriptDesk

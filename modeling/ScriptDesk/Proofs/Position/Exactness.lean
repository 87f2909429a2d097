import Mathlib.Algebra.Ring.Nat
import ScriptDesk.Position.Word
import ScriptDesk.Proofs.Position.Correspondence
import ScriptDesk.Proofs.Text.Segments

/-!
# Offsets in words are exact

The lines of a text, each with a line feed behind it, are one character more than
the text, since nothing follows the last line.  So a sum over some of them exceeds
the length by one at most, and it is a word whenever the text leaves room for that
one.  The last addition may saturate, but only far behind the text, where the offset
is clamped to the end in any case.
-/

namespace ScriptDesk

namespace Position

/-- The number of characters in the first lines, each with a line feed behind it. -/
def exactBefore (text : Text) (count : Nat) : Nat :=
  (((text.splitOn '\n').take count).map fun line => line.length + 1).sum

variable {text : Text} {count : Nat}

theorem charactersOfLines_eq_exactBefore (text : Text) (count : Nat) :
    charactersOfLines text count = exactBefore text count := by
  rw [charactersOfLines, exactBefore, Text.segments_eq_splitOn]
  induction (text.splitOn '\n').take count with
  | nil => rfl
  | cons line lines induction =>
      rw [List.foldr_cons, List.map_cons, List.sum_cons, induction]

theorem charactersOfLines_of_length_le (past : (Text.segments text).length ≤ count) :
    charactersOfLines text count = text.length + 1 := by
  induction text generalizing count with
  | nil =>
      obtain ⟨count, rfl⟩ := Nat.exists_eq_add_of_le' past
      simp [charactersOfLines, Text.segments]
  | cons character text induction =>
      have positive : 0 < count :=
        Nat.lt_of_lt_of_le (List.length_pos_iff.mpr (Text.segments_ne_nil _)) past
      obtain ⟨count, rfl⟩ := Nat.exists_eq_add_of_le' positive
      by_cases lineFeed : character = '\n'
      · subst lineFeed
        have earlier : (Text.segments text).length ≤ count := by
          simpa [Text.segments] using past
        rw [charactersOfLines_lineFeed, induction earlier, List.length_cons]
      · obtain ⟨first, others, shape, shapeAfter⟩ := segments_cons_of_ne lineFeed text
        have earlier : (Text.segments text).length ≤ count + 1 := by
          rw [shapeAfter] at past
          rwa [shape]
        rw [charactersOfLines_cons_of_ne lineFeed, induction earlier, List.length_cons]

theorem charactersOfLines_le (text : Text) (count : Nat) :
    charactersOfLines text count ≤ text.length + 1 :=
  calc charactersOfLines text count
      ≤ charactersOfLines text (max count (Text.segments text).length) :=
        monotone_charactersOfLines text (Nat.le_max_left _ _)
    _ = text.length + 1 := charactersOfLines_of_length_le (Nat.le_max_right _ _)

theorem exactBefore_le (text : Text) (count : Nat) : exactBefore text count ≤ text.length + 1 := by
  rw [← charactersOfLines_eq_exactBefore]
  exact charactersOfLines_le text count

theorem exactBefore_of_length_le (past : (text.splitOn '\n').length ≤ count) :
    exactBefore text count = text.length + 1 := by
  rw [← Text.segments_eq_splitOn] at past
  rw [← charactersOfLines_eq_exactBefore, charactersOfLines_of_length_le past]

theorem offset_eq_min_exactBefore (fits : text.length < Text.wordLimit) (position : Position) :
    position.offset text =
      min text.length (exactBefore text (position.line - 1) + (position.column - 1)) := by
  rw [offset_eq_min_before fits, before, charactersOfLines_eq_exactBefore, Nat.min_comm]

theorem addLine?_of_lt {sum : Nat} {line : Text}
    (fits : sum + (line.length + 1) < Text.wordLimit) :
    addLine? sum line = some (sum + (line.length + 1)) := by
  have lineFits : line.length + 1 < Text.wordLimit := by omega
  rw [addLine?, wordSum?, if_pos lineFits, Option.bind_some, wordSum?, if_pos fits]

/-- If the whole sum is a word, so is every sum on the way. -/
theorem foldlM_addLine? {lines : List Text} {sum : Nat}
    (fits : sum + (lines.map fun line => line.length + 1).sum < Text.wordLimit) :
    lines.foldlM addLine? sum = some (sum + (lines.map fun line => line.length + 1).sum) := by
  induction lines generalizing sum with
  | nil => rfl
  | cons line lines induction =>
      rw [List.map_cons, List.sum_cons, ← Nat.add_assoc] at fits ⊢
      have lineFits : sum + (line.length + 1) < Text.wordLimit :=
        Nat.lt_of_le_of_lt (Nat.le_add_right _ _) fits
      rw [List.foldlM_cons, addLine?_of_lt lineFits]
      exact induction fits

theorem wordCharactersOfLines?_eq (fits : exactBefore text count < Text.wordLimit) :
    wordCharactersOfLines? text count = some (exactBefore text count) := by
  rw [wordCharactersOfLines?, Text.segments_eq_splitOn,
    foldlM_addLine? (by rwa [Nat.zero_add]), Nat.zero_add, exactBefore]

theorem wordOffset?_eq (position : Position)
    (fits : exactBefore text (position.line - 1) < Text.wordLimit) :
    position.wordOffset? text = some (position.offset text) := by
  rw [wordOffset?, wordCharactersOfLines?_eq fits, Option.map_some,
    ← charactersOfLines_eq_exactBefore, Position.offset]

/-- In 64-bit words no sum over lines exceeds the greatest word, and the offset of a
position is what unbounded arithmetic gives. -/
theorem word_offset_exact (fits : text.length < 2 ^ 63) :
    (∀ count, wordCharactersOfLines? text count = some (exactBefore text count) ∧
      exactBefore text count ≤ 2 ^ 64 - 1) ∧
    (∀ position : Position,
      position.wordOffset? text = some (position.offset text) ∧
      position.offset text =
        min text.length (exactBefore text (position.line - 1) + (position.column - 1))) ∧
    (∀ column, (Position.mk 0 column).offset text = (Position.mk 1 column).offset text) ∧
    (∀ line, (Position.mk line 0).offset text = (Position.mk line 1).offset text) ∧
    (∀ position : Position, (text.splitOn '\n').length < position.line →
      position.offset text = text.length) := by
  have limit : Text.wordLimit = 2 ^ 64 := rfl
  have small (count : Nat) : exactBefore text count < Text.wordLimit := by
    have bound := exactBefore_le text count
    omega
  refine ⟨?_, ?_, ?_, ?_, ?_⟩
  · intro count
    exact ⟨wordCharactersOfLines?_eq (small count), Nat.le_sub_one_of_lt (small count)⟩
  · intro position
    exact ⟨wordOffset?_eq position (small _), offset_eq_min_exactBefore (by omega) position⟩
  · intro column
    rfl
  · intro line
    rfl
  · intro position past
    rw [offset_eq_min_exactBefore (by omega),
      exactBefore_of_length_le (Nat.le_sub_one_of_lt past)]
    omega

/-- Behind the last line, with a column whose addition saturates. -/
theorem word_offset_exact_saturated :
    "ab\n\nc".toList.length < 2 ^ 63 ∧
      wordCharactersOfLines? "ab\n\nc".toList 8 = some 6 ∧
      6 + (2 ^ 64 - 1 - 1) > 2 ^ 64 - 1 ∧
      (Position.mk 9 (2 ^ 64 - 1)).wordOffset? "ab\n\nc".toList = some 5 := by
  have fits : "ab\n\nc".toList.length < 2 ^ 63 := by decide
  obtain ⟨sums, offsets, -, -, past⟩ := word_offset_exact fits
  refine ⟨fits, (sums 8).1, by decide, ?_⟩
  rw [(offsets _).1, past _ (by decide)]
  rfl

end Position

end ScriptDesk

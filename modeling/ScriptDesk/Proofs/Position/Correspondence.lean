import Mathlib.Data.Prod.Lex
import Mathlib.Order.Monotone.Basic
import ScriptDesk.Position

/-!
# The correspondence of offsets and positions

`Places` relates the offsets of a text to its positions by recursion over the
text: its beginning stands at the first position, and a character in front of
a text moves every position of that text.  The two functions follow this
relation in opposite directions, so they are inverse to each other on the
positions that a text has, and they keep the order.

The length of a text is a word.  Hence the saturation of the sum in `offset`
is never seen behind the clamping to the text.
-/

namespace ScriptDesk

namespace Position

/-- The characters of a line without its line feed. -/
def lineLength (text : Text) (line : Nat) : Nat :=
  ((Text.segments text).getD (line - 1) []).length

/-- The text has the position: the line is one of its segments, and the column is in that
segment or right behind it. -/
structure Within (text : Text) (position : Position) : Prop where
  line_pos : 1 ≤ position.line
  line_le : position.line ≤ (Text.segments text).length
  column_pos : 1 ≤ position.column
  column_le : position.column ≤ lineLength text position.line + 1

/-- Positions are ordered by their lines, and within a line by their columns. -/
def key (position : Position) : ℕ ×ₗ ℕ :=
  toLex (position.line, position.column)

/-- Where a position of a text is after a character was put in front of the text. -/
def behind (character : Char) (position : Position) : Position :=
  if character = '\n' then ⟨position.line + 1, position.column⟩
  else if position.line = 1 then ⟨1, position.column + 1⟩
  else position

/-- An offset of a text stands at a position. -/
inductive Places : Text → Nat → Position → Prop where
  | first (text : Text) : Places text 0 ⟨1, 1⟩
  | behind {text : Text} {offset : Nat} {position : Position} (character : Char)
      (places : Places text offset position) :
      Places (character :: text) (offset + 1) (position.behind character)

variable {text : Text} {offset : Nat} {position : Position}

theorem line_pos_next (position : Position) (character : Char)
    (positive : 1 ≤ position.line) : 1 ≤ (position.next character).line := by
  unfold next
  split
  · exact Nat.le_add_left 1 position.line
  · exact positive

theorem next_behind (character further : Char) (positive : 1 ≤ position.line) :
    (position.behind character).next further =
      (position.next further).behind character := by
  by_cases first : position.line = 1
  · by_cases lineFeed : character = '\n' <;> by_cases furtherFeed : further = '\n' <;>
      simp [behind, next, lineFeed, furtherFeed, first]
  · by_cases lineFeed : character = '\n' <;> by_cases furtherFeed : further = '\n' <;>
      simp [behind, next, lineFeed, furtherFeed, first]
    omega

theorem foldl_next_behind (character : Char) (characters : Text)
    (positive : 1 ≤ position.line) :
    characters.foldl next (position.behind character) =
      (characters.foldl next position).behind character := by
  induction characters generalizing position with
  | nil => rfl
  | cons further characters induction =>
      rw [List.foldl_cons, List.foldl_cons, next_behind character further positive]
      exact induction (line_pos_next position further positive)

theorem ofOffset_cons_succ (character : Char) (text : Text) (offset : Nat) :
    ofOffset (character :: text) (offset + 1) =
      (ofOffset text offset).behind character := by
  have started : next ⟨1, 1⟩ character = behind character ⟨1, 1⟩ := by
    simp [next, behind]
  unfold ofOffset
  rw [List.take_succ_cons, List.foldl_cons, started]
  exact foldl_next_behind character _ (Nat.le_refl 1)

theorem Places.ofOffset_eq (places : Places text offset position) :
    ofOffset text offset = position := by
  induction places with
  | first text => rfl
  | behind character places induction => rw [ofOffset_cons_succ, induction]

theorem places_ofOffset (within : offset ≤ text.length) :
    Places text offset (ofOffset text offset) := by
  induction text generalizing offset with
  | nil =>
      have beginning : offset = 0 := Nat.le_zero.mp within
      subst beginning
      exact .first []
  | cons character text induction =>
      cases offset with
      | zero => exact .first _
      | succ offset =>
          rw [ofOffset_cons_succ]
          exact .behind character (induction (Nat.le_of_succ_le_succ within))

theorem ofOffset_min (text : Text) (offset : Nat) :
    ofOffset text (min offset text.length) = ofOffset text offset := by
  rcases Nat.le_total offset text.length with within | past
  · rw [Nat.min_eq_left within]
  · rw [Nat.min_eq_right past, ofOffset_of_length_le past]

theorem Places.offset_le (places : Places text offset position) :
    offset ≤ text.length := by
  induction places with
  | first text => exact Nat.zero_le _
  | behind character places induction => exact Nat.succ_le_succ induction

theorem Places.positive (places : Places text offset position) :
    1 ≤ position.line ∧ 1 ≤ position.column := by
  induction places with
  | first text => exact ⟨Nat.le_refl 1, Nat.le_refl 1⟩
  | behind character places induction =>
      unfold Position.behind
      split
      · exact ⟨Nat.le_add_left 1 _, induction.2⟩
      · split
        · exact ⟨Nat.le_refl 1, Nat.le_add_left 1 _⟩
        · exact induction

theorem segments_cons_of_ne {character : Char} (other : character ≠ '\n')
    (text : Text) :
    ∃ first others, Text.segments text = first :: others ∧
      Text.segments (character :: text) = (character :: first) :: others := by
  cases shape : Text.segments text with
  | nil => exact (Text.segments_ne_nil text shape).elim
  | cons first others =>
      exact ⟨first, others, rfl, by simp [Text.segments, other, shape, Text.extendFirst]⟩

theorem charactersOfLines_lineFeed (text : Text) (count : Nat) :
    charactersOfLines ('\n' :: text) (count + 1) = charactersOfLines text count + 1 := by
  simp [charactersOfLines, Text.segments, Nat.add_comm]

theorem charactersOfLines_cons_of_ne {character : Char} (other : character ≠ '\n')
    (text : Text) (count : Nat) :
    charactersOfLines (character :: text) (count + 1) =
      charactersOfLines text (count + 1) + 1 := by
  obtain ⟨first, others, shape, shapeAfter⟩ := segments_cons_of_ne other text
  simp only [charactersOfLines, shape, shapeAfter, List.take_succ_cons, List.foldr_cons,
    List.length_cons]
  omega

/-- The number of characters before a position, if nothing is clamped. -/
def before (text : Text) (position : Position) : Nat :=
  charactersOfLines text (position.line - 1) + (position.column - 1)

theorem before_behind (character : Char) (text : Text)
    (positive : 1 ≤ position.line ∧ 1 ≤ position.column) :
    before (character :: text) (position.behind character) = before text position + 1 := by
  obtain ⟨line, column⟩ := position
  obtain ⟨line, rfl⟩ := Nat.exists_eq_add_of_le' positive.1
  obtain ⟨column, rfl⟩ := Nat.exists_eq_add_of_le' positive.2
  by_cases lineFeed : character = '\n'
  · subst lineFeed
    simp only [before, behind, if_true, Nat.add_sub_cancel, charactersOfLines_lineFeed]
    omega
  · cases line with
    | zero => simp [before, behind, lineFeed, charactersOfLines]
    | succ line =>
        simp [before, behind, lineFeed, charactersOfLines_cons_of_ne lineFeed]
        omega

theorem Places.before_eq (places : Places text offset position) :
    before text position = offset := by
  induction places with
  | first text => simp [before, charactersOfLines]
  | behind character places induction =>
      rw [before_behind character _ places.positive, induction]

theorem offset_eq_min_before (fits : text.length < Text.wordLimit)
    (position : Position) :
    position.offset text = min (before text position) text.length := by
  simp only [Position.offset, saturatingAdd, before]
  omega

theorem Places.offset_eq (fits : text.length < Text.wordLimit)
    (places : Places text offset position) : position.offset text = offset := by
  rw [offset_eq_min_before fits, places.before_eq, Nat.min_eq_left places.offset_le]

theorem Places.within (places : Places text offset position) : Within text position := by
  induction places with
  | first text =>
      refine ⟨Nat.le_refl 1, ?_, Nat.le_refl 1, Nat.le_add_left 1 _⟩
      exact List.length_pos_iff.mpr (Text.segments_ne_nil text)
  | @behind text offset position character places induction =>
      obtain ⟨line, column⟩ := position
      obtain ⟨linePos, lineLe, columnPos, columnLe⟩ := induction
      obtain ⟨line, rfl⟩ := Nat.exists_eq_add_of_le' linePos
      by_cases lineFeed : character = '\n'
      · subst lineFeed
        constructor <;> simp_all [Position.behind, lineLength, Text.segments]
      · obtain ⟨first, others, shape, shapeAfter⟩ := segments_cons_of_ne lineFeed text
        cases line with
        | zero => constructor <;> simp_all [Position.behind, lineLength]
        | succ line => constructor <;> simp_all [Position.behind, lineLength]

theorem Within.exists_places (within : Within text position) :
    ∃ offset, Places text offset position := by
  induction text generalizing position with
  | nil =>
      obtain ⟨line, column⟩ := position
      obtain ⟨linePos, lineLe, columnPos, columnLe⟩ := within
      have lineEq : line = 1 := Nat.le_antisymm lineLe linePos
      subst lineEq
      have columnEq : column = 1 := Nat.le_antisymm columnLe columnPos
      subst columnEq
      exact ⟨0, .first []⟩
  | cons character text induction =>
      obtain ⟨line, column⟩ := position
      obtain ⟨linePos, lineLe, columnPos, columnLe⟩ := within
      obtain ⟨line, rfl⟩ := Nat.exists_eq_add_of_le' linePos
      obtain ⟨column, rfl⟩ := Nat.exists_eq_add_of_le' columnPos
      by_cases lineFeed : character = '\n'
      · subst lineFeed
        cases line with
        | zero =>
            have columnEq : column = 0 := by
              simpa [lineLength, Text.segments] using columnLe
            subst columnEq
            exact ⟨0, .first _⟩
        | succ line =>
            have earlier : Within text ⟨line + 1, column + 1⟩ := by
              constructor <;> simp_all [lineLength, Text.segments]
            obtain ⟨offset, places⟩ := induction earlier
            exact ⟨offset + 1, .behind '\n' places⟩
      · obtain ⟨first, others, shape, shapeAfter⟩ := segments_cons_of_ne lineFeed text
        cases line with
        | zero =>
            cases column with
            | zero => exact ⟨0, .first _⟩
            | succ column =>
                have earlier : Within text ⟨1, column + 1⟩ := by
                  constructor <;> simp_all [lineLength]
                obtain ⟨offset, places⟩ := induction earlier
                have moved := Places.behind character places
                simp only [behind, lineFeed, if_false, if_true] at moved
                exact ⟨offset + 1, moved⟩
        | succ line =>
            have earlier : Within text ⟨line + 2, column + 1⟩ := by
              constructor <;> simp_all [lineLength]
            obtain ⟨offset, places⟩ := induction earlier
            have moved := Places.behind character places
            simp only [behind, lineFeed, if_false] at moved
            exact ⟨offset + 1, moved⟩

theorem within_iff_exists_places :
    Within text position ↔ ∃ offset, Places text offset position :=
  ⟨Within.exists_places, fun ⟨_, places⟩ => places.within⟩

theorem offset_ofOffset (fits : text.length < Text.wordLimit) (offset : Nat) :
    (ofOffset text offset).offset text = min offset text.length := by
  rw [← ofOffset_min]
  exact (places_ofOffset (Nat.min_le_right _ _)).offset_eq fits

theorem ofOffset_offset_iff (fits : text.length < Text.wordLimit) :
    ofOffset text (position.offset text) = position ↔ Within text position := by
  rw [within_iff_exists_places]
  constructor
  · intro returned
    have places := places_ofOffset (offset_le_length position text)
    rw [returned] at places
    exact ⟨_, places⟩
  · rintro ⟨offset, places⟩
    rw [places.offset_eq fits, places.ofOffset_eq]

theorem key_lt_next (position : Position) (character : Char) :
    position.key < (position.next character).key := by
  unfold next
  split
  · exact Prod.Lex.toLex_lt_toLex.mpr (.inl (Nat.lt_succ_self _))
  · exact Prod.Lex.toLex_lt_toLex.mpr (.inr ⟨rfl, Nat.lt_succ_self _⟩)

theorem ofOffset_succ (within : offset < text.length) :
    ofOffset text (offset + 1) = (ofOffset text offset).next text[offset] := by
  unfold ofOffset
  rw [List.take_succ_eq_append_getElem within, List.foldl_append]
  rfl

theorem key_ofOffset_lt_succ (within : offset < text.length) :
    (ofOffset text offset).key < (ofOffset text (offset + 1)).key := by
  rw [ofOffset_succ within]
  exact key_lt_next _ _

theorem monotone_key_ofOffset (text : Text) :
    Monotone fun offset => (ofOffset text offset).key := by
  apply monotone_nat_of_le_succ
  intro offset
  rcases Nat.lt_or_ge offset text.length with within | past
  · exact (key_ofOffset_lt_succ within).le
  · have same : ofOffset text (offset + 1) = ofOffset text offset := by
      rw [ofOffset_of_length_le past, ofOffset_of_length_le (Nat.le_succ_of_le past)]
    exact (congrArg key same).ge

theorem key_ofOffset_lt {earlier later : Nat} (before : earlier < later)
    (within : later ≤ text.length) :
    (ofOffset text earlier).key < (ofOffset text later).key :=
  (key_ofOffset_lt_succ (Nat.lt_of_lt_of_le before within)).trans_le
    (monotone_key_ofOffset text before)

theorem monotone_charactersOfLines (text : Text) : Monotone (charactersOfLines text) := by
  have more : ∀ segment : Text, Monotone fun total => segment.length + 1 + total :=
    fun segment _ _ le => Nat.add_le_add_left le _
  apply monotone_nat_of_le_succ
  intro count
  rw [charactersOfLines, charactersOfLines, List.take_add_one, List.foldr_append]
  exact List.foldr_monotone more _ (Nat.zero_le _)

theorem offset_le_offset {position further : Position} (text : Text)
    (lines : position.line ≤ further.line) (columns : position.column ≤ further.column) :
    position.offset text ≤ further.offset text := by
  have characters : charactersOfLines text (position.line - 1) ≤
      charactersOfLines text (further.line - 1) :=
    monotone_charactersOfLines text (Nat.sub_le_sub_right lines 1)
  simp only [Position.offset, saturatingAdd]
  omega

/-- Offsets and positions of a text are inverse to each other and keep the order.  From
an offset and back leads to that offset, or to the end of the text from behind it; from a
position and back leads to that position exactly if the text has it. -/
theorem offset_position_correspondence (fits : text.length < Text.wordLimit) :
    (∀ offset, (ofOffset text offset).offset text = min offset text.length) ∧
    (∀ position, ofOffset text (position.offset text) = position ↔
      Within text position) ∧
    (∀ earlier later, earlier ≤ later →
      (ofOffset text earlier).key ≤ (ofOffset text later).key ∧
        (earlier < later → later ≤ text.length →
          (ofOffset text earlier).key < (ofOffset text later).key)) ∧
    (∀ line laterLine column, line ≤ laterLine →
      (Position.mk line column).offset text ≤ (Position.mk laterLine column).offset text) ∧
    (∀ line column laterColumn, column ≤ laterColumn →
      (Position.mk line column).offset text ≤ (Position.mk line laterColumn).offset text) := by
  refine ⟨offset_ofOffset fits, fun _ => ofOffset_offset_iff fits, ?_, ?_, ?_⟩
  · intro earlier later ordered
    exact ⟨monotone_key_ofOffset text ordered, key_ofOffset_lt⟩
  · intro line laterLine column lines
    exact offset_le_offset text lines le_rfl
  · intro line column laterColumn columns
    exact offset_le_offset text le_rfl columns

/-- A text with an empty line and a line feed at its end. -/
theorem offset_position_correspondence_empty_line :
    "ab\n\nc\n".toList.length < Text.wordLimit ∧
      ofOffset "ab\n\nc\n".toList ((Position.mk 2 1).offset "ab\n\nc\n".toList) = ⟨2, 1⟩ ∧
      ofOffset "ab\n\nc\n".toList ((Position.mk 2 2).offset "ab\n\nc\n".toList) ≠ ⟨2, 2⟩ ∧
      (ofOffset "ab\n\nc\n".toList 9).offset "ab\n\nc\n".toList = 6 := by
  have fits : "ab\n\nc\n".toList.length < Text.wordLimit := by decide
  obtain ⟨returns, returnsIff, -⟩ := offset_position_correspondence fits
  refine ⟨fits, (returnsIff _).mpr ?_, ?_, returns 9⟩
  · exact ⟨by decide, by decide, by decide, by decide⟩
  · intro returned
    exact absurd ((returnsIff _).mp returned).column_le (by decide)

end Position

end ScriptDesk

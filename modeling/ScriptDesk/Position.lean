import ScriptDesk.Text.Numeral
import ScriptDesk.Text.Utf8

/-!
# Positions and offsets

A place in a text is either an offset, the number of characters before it, or a position,
a line and a column that both count from one. A line ends at a line feed, which belongs to
it as one more character. Nothing here fails: what lies outside the text is clamped to it.
-/

namespace ScriptDesk

/-- A line and a column, both counted from one. -/
structure Position where
  line : Nat
  column : Nat
deriving DecidableEq, Repr

namespace Position

/-- Addition that stays at the greatest 64-bit number instead of exceeding it. -/
def saturatingAdd (left right : Nat) : Nat :=
  min (left + right) (Text.wordLimit - 1)

/-- How many characters the first `count` lines take, each with its line feed. -/
def charactersOfLines (text : Text) (count : Nat) : Nat :=
  ((Text.segments text).take count).foldr (fun segment total => segment.length + 1 + total) 0

/-- The offset of a position in a text. Line and column zero act as one. -/
def offset (position : Position) (text : Text) : Nat :=
  min (saturatingAdd (charactersOfLines text (position.line - 1)) (position.column - 1))
    text.length

def next (position : Position) (character : Char) : Position :=
  if character = '\n' then ⟨position.line + 1, 1⟩
  else ⟨position.line, position.column + 1⟩

/-- The position of an offset. Offsets past the end stand for the end. -/
def ofOffset (text : Text) (offset : Nat) : Position :=
  (text.take offset).foldl next ⟨1, 1⟩

/-- How many octets stand before an offset. Offsets past the end stand for the end. -/
def octetIndex (text : Text) (offset : Nat) : Nat :=
  Utf8.size (text.take offset)

theorem offset_le_length (position : Position) (text : Text) :
    position.offset text ≤ text.length :=
  Nat.min_le_right _ _

theorem ofOffset_of_length_le {text : Text} {offset : Nat} (past : text.length ≤ offset) :
    ofOffset text offset = ofOffset text text.length := by
  simp [ofOffset, List.take_of_length_le past]

end Position

end ScriptDesk

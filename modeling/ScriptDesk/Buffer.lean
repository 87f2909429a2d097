import ScriptDesk.Position

/-!
# The buffer

The script that is being edited, with a caret. The caret is an offset. Whatever changes
the text puts the caret behind its last character; a request for a position is resolved
in the text as it is now, and clamped to it.
-/

namespace ScriptDesk

namespace Utf8

/-- What is left of a text behind a number of octets. There is no answer if the text is
shorter, or if that place is inside a character. -/
def dropOctets? : Nat → Text → Option Text
  | 0, text => some text
  | _ + 1, [] => none
  | count + 1, character :: rest =>
    if character.utf8Size ≤ count + 1 then dropOctets? (count + 1 - character.utf8Size) rest
    else none

theorem size_cons (character : Char) (rest : Text) :
    size (character :: rest) = character.utf8Size + size rest := by
  simp [size]

/-- Behind the octets of the first characters stand the other characters. -/
theorem dropOctets?_size_take (text : Text) (count : Nat) :
    dropOctets? (size (text.take count)) text = some (text.drop count) := by
  induction text generalizing count with
  | nil => simp [size, dropOctets?]
  | cons character rest others =>
    match count with
    | 0 => simp [size, dropOctets?]
    | count + 1 =>
      have positive : 0 < character.utf8Size := character.utf8Size_pos
      rw [List.take_succ_cons, List.drop_succ_cons, size_cons]
      cases total : character.utf8Size + size (rest.take count) with
      | zero => omega
      | succ predecessor =>
        have fits : character.utf8Size ≤ predecessor + 1 := by omega
        have remaining : predecessor + 1 - character.utf8Size = size (rest.take count) := by
          omega
        simp [dropOctets?, fits, remaining, others]

end Utf8

/-- A script with the offset of the caret in it. -/
structure Buffer where
  text : Text
  caret : Nat
deriving DecidableEq, Repr

namespace Buffer

/-- No text. -/
def empty : Buffer := ⟨[], 0⟩

/-- A text with the caret behind it. -/
def ofText (text : Text) : Buffer := ⟨text, text.length⟩

/-- Whether there is no text. -/
def isEmpty (buffer : Buffer) : Bool :=
  buffer.text.isEmpty

/-- The number of characters. -/
def length (buffer : Buffer) : Nat :=
  buffer.text.length

def setText (_ : Buffer) (text : Text) : Buffer :=
  ofText text

def pushLine (buffer : Buffer) (line : Text) : Buffer :=
  ofText (buffer.text ++ line ++ ['\n'])

/-- Removes the text. -/
def clear (_ : Buffer) : Buffer :=
  empty

/-- Moves the caret to a position, as far as the text has it. -/
def moveTo (buffer : Buffer) (request : Position) : Buffer :=
  { buffer with caret := request.offset buffer.text }

/-- The line and column of the caret. -/
def caretPosition (buffer : Buffer) : Position :=
  .ofOffset buffer.text buffer.caret

/-- The octet at which the caret's line begins. -/
def caretLineStart (buffer : Buffer) : Nat :=
  Position.octetIndex buffer.text
    (Position.offset ⟨buffer.caretPosition.line, 1⟩ buffer.text)

/-- The line that the caret is on, without its line feed. -/
def caretLine (buffer : Buffer) : Text :=
  match Utf8.dropOctets? buffer.caretLineStart buffer.text with
  | some rest => rest.takeWhile (· ≠ '\n')
  | none => []

/-- A change of the buffer. -/
inductive Edit where
  | setText (text : Text)
  | pushLine (line : Text)
  | clear
  | moveTo (request : Position)
deriving DecidableEq, Repr

def apply (buffer : Buffer) : Edit → Buffer
  | .setText text => buffer.setText text
  | .pushLine line => buffer.pushLine line
  | .clear => buffer.clear
  | .moveTo request => buffer.moveTo request

end Buffer

end ScriptDesk

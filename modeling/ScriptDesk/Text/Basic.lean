/-!
# Text

A text is its list of characters. This module holds the two notions of line that the
desk uses: the segments between line feeds, and the lines that a reader sees, which end
at a line feed or at a carriage return followed by one. Joining the segments gives the
text back.
-/

namespace ScriptDesk

/-- A text as the list of its characters. -/
abbrev Text := List Char

namespace Text

/-- Puts a character in front of the first segment. -/
def extendFirst (character : Char) : List Text → List Text
  | [] => [[character]]
  | segment :: segments => (character :: segment) :: segments

/-- The pieces between line feeds. There is one piece more than there are line feeds. -/
def segments : Text → List Text
  | [] => [[]]
  | character :: rest =>
    if character = '\n' then [] :: segments rest
    else extendFirst character (segments rest)

/-- The pieces of a text between separators, empty ones included. -/
def pieces (separator : Char) : Text → List Text
  | [] => [[]]
  | character :: rest =>
    if character = separator then [] :: pieces separator rest
    else extendFirst character (pieces separator rest)

def joinWith (separator : Text) : List Text → Text
  | [] => []
  | [piece] => piece
  | piece :: next :: rest => piece ++ separator ++ joinWith separator (next :: rest)

/-- The text without the longest tail of characters that satisfy the test. -/
def dropTrailing (test : Char → Bool) (text : Text) : Text :=
  (text.reverse.dropWhile test).reverse

/-- The text without one given last character, if it ends in it. -/
def dropOneTrailing (character : Char) (text : Text) : Text :=
  match text.reverse with
  | last :: rest => if last = character then rest.reverse else text
  | [] => text

/-- The lines that were closed by a line feed lose one carriage return before it; what
follows the last line feed is a line only if it is not empty. -/
def linesOfSegments : List Text → List Text
  | [] => []
  | [last] => if last.isEmpty then [] else [last]
  | closed :: next :: rest => dropOneTrailing '\r' closed :: linesOfSegments (next :: rest)

def lines (text : Text) : List Text :=
  linesOfSegments (segments text)

/-- What is left of a text after a given beginning, if it has that beginning. -/
def dropLeading? : Text → Text → Option Text
  | [], text => some text
  | _ :: _, [] => none
  | expected :: leading, character :: text =>
    if expected = character then dropLeading? leading text else none

theorem extendFirst_ne_nil (character : Char) (pieces : List Text) :
    extendFirst character pieces ≠ [] := by
  cases pieces <;> simp [extendFirst]

theorem segments_ne_nil (text : Text) : segments text ≠ [] := by
  cases text with
  | nil => simp [segments]
  | cons character rest =>
    unfold segments
    split
    · simp
    · exact extendFirst_ne_nil character (segments rest)

theorem joinWith_extendFirst (separator : Text) (character : Char) (pieces : List Text) :
    joinWith separator (extendFirst character pieces) = character :: joinWith separator pieces := by
  match pieces with
  | [] => rfl
  | [_] => rfl
  | _ :: _ :: _ => rfl

theorem joinWith_segments (text : Text) : joinWith ['\n'] (segments text) = text := by
  induction text with
  | nil => rfl
  | cons character rest joined =>
    unfold segments
    split
    case isTrue lineFeed =>
      subst lineFeed
      cases shape : segments rest with
      | nil => exact absurd shape (segments_ne_nil rest)
      | cons first others =>
        rw [shape] at joined
        simp [joinWith, joined]
    case isFalse => rw [joinWith_extendFirst, joined]

theorem dropLeading?_append (leading rest : Text) :
    dropLeading? leading (leading ++ rest) = some rest := by
  induction leading with
  | nil => rfl
  | cons character leading remaining => simp [dropLeading?, remaining]

theorem eq_append_of_dropLeading? {leading text rest : Text}
    (found : dropLeading? leading text = some rest) : text = leading ++ rest := by
  induction leading generalizing text with
  | nil => simpa [dropLeading?] using found
  | cons expected leading remaining =>
    cases text with
    | nil => simp [dropLeading?] at found
    | cons character text =>
      simp only [dropLeading?] at found
      split at found
      case isTrue same => rw [same, remaining found, List.cons_append]
      case isFalse => simp at found

end Text

end ScriptDesk

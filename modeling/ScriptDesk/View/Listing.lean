import ScriptDesk.Buffer
import ScriptDesk.View

/-!
# The numbered listing

The lines of a buffer with their numbers, right-aligned in the width of the greatest one.
The line of the caret is marked. A line feed at the end of the text closes the last line
and begins none.
-/

namespace ScriptDesk.View

def listedLines (text : Text) : List Text :=
  Text.segments (Text.dropOneTrailing '\n' text)

def alignedNumber (width number : Nat) : Text :=
  let digits := Text.decimal number
  List.replicate (width - digits.length) ' ' ++ digits

/-- What stands between a line's number and its text. -/
def listingBar : Text := " │ ".toList

def listedLine (width caretLine number : Nat) (line : Text) : ViewLine :=
  let tail := alignedNumber width number ++ listingBar ++ line
  if number = caretLine then ⟨.link, '>' :: tail⟩ else ⟨.plain, ' ' :: tail⟩

/-- Lines of the listing, numbered from a given number on. -/
def listFrom (width caretLine : Nat) : Nat → List Text → List ViewLine
  | _, [] => []
  | number, line :: rest =>
    listedLine width caretLine number line :: listFrom width caretLine (number + 1) rest

def bufferView (buffer : Buffer) : List ViewLine :=
  if buffer.isEmpty then [⟨.muted, "(empty buffer)".toList⟩]
  else
    let lines := listedLines buffer.text
    listFrom (Text.decimal lines.length).length buffer.caretPosition.line 1 lines

end ScriptDesk.View

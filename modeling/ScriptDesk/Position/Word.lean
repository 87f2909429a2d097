import ScriptDesk.Position

/-!
# Offsets in 64-bit words

The same computation of an offset with every number held in 64 bits. The sum over the
lines has no guard of its own, so it is given as a computation that stops where a sum
would exceed the greatest word; only the last addition saturates.
-/

namespace ScriptDesk.Position

/-- A sum of two words, if it is a word. -/
def wordSum? (left right : Nat) : Option Nat :=
  if left + right < Text.wordLimit then some (left + right) else none

/-- The length of a line with its line feed, added to a sum of words. -/
def addLine? (sum : Nat) (segment : Text) : Option Nat :=
  (wordSum? segment.length 1).bind (wordSum? sum)

/-- The characters of the first lines, if no sum on the way exceeds a word. -/
def wordCharactersOfLines? (text : Text) (count : Nat) : Option Nat :=
  ((Text.segments text).take count).foldlM addLine? 0

def wordOffset? (position : Position) (text : Text) : Option Nat :=
  (wordCharactersOfLines? text (position.line - 1)).map fun before =>
    min (saturatingAdd before (position.column - 1)) text.length

end ScriptDesk.Position

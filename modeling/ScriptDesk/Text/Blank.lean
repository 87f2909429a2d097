import ScriptDesk.Text.CodeRange

/-!
# White space

The characters with the Unicode property White_Space, and trimming by it.
-/

namespace ScriptDesk.Text

/-- The Unicode property White_Space. -/
def blankRanges : List CodeRange :=
  [⟨0x09, 0x0D⟩, ⟨0x20, 0x20⟩, ⟨0x85, 0x85⟩, ⟨0xA0, 0xA0⟩, ⟨0x1680, 0x1680⟩,
   ⟨0x2000, 0x200A⟩, ⟨0x2028, 0x2029⟩, ⟨0x202F, 0x202F⟩, ⟨0x205F, 0x205F⟩, ⟨0x3000, 0x3000⟩]

/-- Whether a character is white space. -/
def isBlank (character : Char) : Bool :=
  CodeRange.holds blankRanges character

/-- The text without white space at its two ends. -/
def trim (text : Text) : Text :=
  dropTrailing isBlank (text.dropWhile isBlank)

end ScriptDesk.Text

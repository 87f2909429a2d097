import ScriptDesk.Text.CombiningMark
import ScriptDesk.Text.Numeral
import ScriptDesk.Text.Unprintable

/-!
# Quoted text

A text between quotation marks, in which marks, backslashes, the common control
characters and everything that would not show as itself are escaped.
-/

namespace ScriptDesk.Text

/-- The two marks of halfwidth writing that show as letters of their own. -/
def halfwidthMarks : List Char := ['\uff9e', '\uff9f']

/-- Whether a character would not show as itself between quotation marks. -/
def isConcealed (character : Char) : Bool :=
  isUnprintable character || (isCombining character && !halfwidthMarks.contains character)

/-- The letter that stands behind a backslash for a character, if it has one. -/
def escapeLetter? (character : Char) : Option Char :=
  if character = '\x00' then some '0'
  else if character = '\t' then some 't'
  else if character = '\r' then some 'r'
  else if character = '\n' then some 'n'
  else if character = '"' then some '"'
  else if character = '\\' then some '\\'
  else none

def quotedChar (character : Char) : Text :=
  match escapeLetter? character with
  | some letter => ['\\', letter]
  | none =>
    if isConcealed character then
      ['\\', 'u', '{'] ++ hexadecimal character.toNat ++ ['}']
    else [character]

def quoted (text : Text) : Text :=
  '"' :: text.flatMap quotedChar ++ ['"']

end ScriptDesk.Text

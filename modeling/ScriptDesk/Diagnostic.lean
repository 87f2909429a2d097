import ScriptDesk.Position
import ScriptDesk.Text.DecimalDigit

/-!
# Diagnostics

An interpreter reports an error in a line `path.extension:line:column: error: message`.
The first line of a text that has this form is looked for, and in it the last place where
the part from the dot on can begin. If the numbers of that place are written in ASCII
digits, are at least one and fit 64 bits, the text has a diagnostic; otherwise it has
none, whatever follows. The path is never shown: a label names the script instead.
-/

namespace ScriptDesk

/-- An error message with the place in the script that it is about. -/
structure Diagnostic where
  line : Nat
  column : Nat
  message : Text
deriving DecidableEq, Repr

/-- How diagnostics are found in what an interpreter has written. -/
abbrev Grammar := Text → Option Diagnostic

namespace Diagnostic

/-- Stands for the script's path in labels. -/
def scriptName : Text := "script".toList

/-- What separates the place from the message. -/
def errorMark : Text := ": error: ".toList

/-- A place with its message, headed by a name for the script. -/
def labelFor (name : Text) (diagnostic : Diagnostic) : Text :=
  name ++ ':' :: Text.decimal diagnostic.line ++ ':' :: Text.decimal diagnostic.column ++
    errorMark ++ diagnostic.message

/-- The diagnostic in one line, without the script's path. -/
def label (diagnostic : Diagnostic) : Text :=
  diagnostic.labelFor scriptName

def position (diagnostic : Diagnostic) : Position :=
  ⟨diagnostic.line, diagnostic.column⟩

/-- The two numbers of a report as they are written, and what follows them in its line. -/
structure Report where
  line : Text
  column : Text
  message : Text
deriving DecidableEq, Repr

/-- What stands between a path and the line number. -/
def extensionMark (extension : Text) : Text :=
  '.' :: extension ++ [':']

/-- The decimal digits at the beginning of a text, if there are any, and the rest. -/
def leadingDigits? (text : Text) : Option (Text × Text) :=
  let digits := text.takeWhile Text.isDecimalDigit
  if digits.isEmpty then none
  else some (digits, text.dropWhile Text.isDecimalDigit)

def reportAt? (extension text : Text) : Option Report := do
  let afterMark ← Text.dropLeading? (extensionMark extension) text
  let (line, afterLine) ← leadingDigits? afterMark
  let afterColon ← Text.dropLeading? [':'] afterLine
  let (column, afterColumn) ← leadingDigits? afterColon
  let message ← Text.dropLeading? errorMark afterColumn
  return ⟨line, column, message.takeWhile (· ≠ '\n')⟩

/-- The last report whose extension mark begins in the text's first line. -/
def lastReport? (extension : Text) : Text → Option Report
  | [] => none
  | character :: rest =>
    if character = '\n' then none
    else
      match lastReport? extension rest with
      | some report => some report
      | none => reportAt? extension (character :: rest)

/-- The report of the first line that has one. The flag says that a line begins here. -/
def firstReport? (extension : Text) : Bool → Text → Option Report
  | _, [] => none
  | lineBegins, character :: rest =>
    match if lineBegins then lastReport? extension (character :: rest) else none with
    | some report => some report
    | none => firstReport? extension (character = '\n') rest

/-- A line or column number as it is written, if it counts from one and fits 64 bits. -/
def readOrdinal? (digits : Text) : Option Nat :=
  (Text.readDigits? digits).filter (1 ≤ ·)

/-- The diagnostic of a report, if its numbers have values. Carriage returns at the end of
the message are dropped. -/
def ofReport? (report : Report) : Option Diagnostic := do
  let line ← readOrdinal? report.line
  let column ← readOrdinal? report.column
  return ⟨line, column, Text.dropTrailing (· = '\r') report.message⟩

def grammar (extension : Text) : Grammar := fun text =>
  (firstReport? extension true text).bind ofReport?

/-- The grammar of scripts with an extension. The pattern of a grammar can only be built as long
as it does not take too much room, so an extension may not have more octets than a limit. -/
def grammar? (limit : Nat) (extension : Text) : Option Grammar :=
  if Utf8.size extension ≤ limit then some (grammar extension) else none

/-- The extension of scripts where nothing else is said. -/
def defaultExtension : Text := "kts".toList

end Diagnostic

end ScriptDesk

import ScriptDesk.Shell.Numeral
import ScriptDesk.Shell.Run

/-!
# Arguments of the shell's commands

How the commands of the shell read their options and numbers, and how values are written so
that they can be read again.
-/

namespace ScriptDesk.Shell

/-- What the letters of one argument ask for. -/
inductive Letters where
  | flags (letters : List Char)
  /-- The last letter takes a value. -/
  | valued (letters : List Char) (letter : Char) (value : Text)
  | illegal (letter : Char)

namespace Letters

/-- Reads letters, given which are known and whether they take a value. -/
def read (known : List (Char × Bool)) : Text → Letters
  | [] => .flags []
  | letter :: rest =>
    match known.lookup letter with
    | none => .illegal letter
    | some true => .valued [] letter rest
    | some false =>
      match read known rest with
      | .flags letters => .flags (letter :: letters)
      | .valued letters last value => .valued (letter :: letters) last value
      | .illegal other => .illegal other

end Letters

namespace Run

/-- Reads the options in front of arguments, given which letters are known and whether they
take a value. -/
def options (known : List (Char × Bool)) : List Text → Run (List (Char × Text) × List Text)
  | ('-' :: first :: letters) :: arguments =>
    if first = '-' ∧ letters.isEmpty then give ([], arguments)
    else
      match Letters.read known (first :: letters) with
      | .illegal letter => fail ("Illegal option -".toList ++ [letter])
      | .flags letters => do
        let (found, rest) ← options known arguments
        return (letters.map (·, []) ++ found, rest)
      | .valued letters letter value => do
        let before := letters.map (·, ([] : Text))
        match value, arguments with
        | [], [] => fail ("No arg for -".toList ++ letter :: " option".toList)
        | [], value :: arguments =>
          let (found, rest) ← options known arguments
          return (before ++ (letter, value) :: found, rest)
        | value, arguments =>
          let (found, rest) ← options known arguments
          return (before ++ (letter, value) :: found, rest)
  | arguments => give ([], arguments)

def withoutOptions (arguments : List Text) : Run (List Text) := do
  return (← options [] arguments).2

/-- The number that a text spells. It is an error if it spells none. -/
def number (text : Text) : Run Nat :=
  match Numeral.ofDigits? text with
  | some number => give number
  | none => fail (Numeral.illegal text)

end Run

/-- A text in single quotation marks. Those that stand in it are written in double ones. -/
def singleQuoted (text : Text) : Text :=
  if text.isEmpty then [apostrophe, apostrophe] else pieces text.length text
where
  /-- The text in pieces of either kind. The bound is its length. -/
  pieces : Nat → Text → Text
    | _, [] => []
    | 0, _ => []
    | bound + 1, text =>
      let plain := text.takeWhile (· ≠ apostrophe)
      let behind := text.drop plain.length
      let marks := behind.takeWhile (· = apostrophe)
      let written := apostrophe :: plain ++ [apostrophe]
      if marks.isEmpty then written
      else written ++ '"' :: marks ++ ['"'] ++ pieces bound (behind.drop marks.length)

/-- A variable as a command that would set it. -/
def shownBinding (command : Text) (binding : Binding) : Text :=
  let value :=
    match binding.value with
    | some value => '=' :: singleQuoted value
    | none => []
  (if command.isEmpty then [] else command ++ [' ']) ++ binding.name ++ value ++ ['\n']

/-- Variables as commands that would set them, in the order of their names. -/
def shownBindings (command : Text) (bindings : List Binding) : Text :=
  (bindings.mergeSort fun left right => !(decide (right.name < left.name))).flatMap
    (shownBinding command)

end ScriptDesk.Shell

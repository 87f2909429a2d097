import ScriptDesk.Fault
import ScriptDesk.Shell.Command
import ScriptDesk.System.Request
import ScriptDesk.Text.Numeral

/-!
# Programs of the system

What the programs of the system have in common: they are started with a name and arguments,
they read options and files, and they complain under their name.
-/

namespace ScriptDesk.Tool

/-- What a program is started with. -/
structure Invocation where
  name : Text
  arguments : List Text
  environment : List (Text × Text)

/-- The options that a program knows: letters and words, which stand for letters. Each is
marked if it takes a value. -/
structure Known where
  letters : List (Char × Bool)
  words : List (String × Char × Bool)
  /-- Options are read only up to the first argument that is none. -/
  inFront : Bool

/-- What has been read of arguments: the options with their values, and the rest. -/
structure Given where
  options : List (Char × Text)
  operands : List Text

namespace Given

/-- Whether an option is given. -/
def has (given : Given) (letter : Char) : Bool :=
  given.options.any fun (known, _) => known = letter

def value? (given : Given) (letter : Char) : Option Text :=
  (given.options.reverse.find? fun (known, _) => known = letter).map Prod.snd

/-- Adds an option in front. -/
def add (letter : Char) (value : Text) (given : Given) : Given :=
  { given with options := (letter, value) :: given.options }

end Given

def marked (text : Text) : Text :=
  Shell.apostrophe :: text ++ [Shell.apostrophe]

/-- Whether a character can stand in a name without marks. -/
def isOrdinary (character : Char) : Bool :=
  character.isAlphanum || 127 < character.toNat || "%+,-./:@]_\x7b\x7d".toList.contains character

/-- A name, between marks if it holds anything but ordinary characters. -/
def shownName (name : Text) : Text :=
  let special := name.any fun character => !isOrdinary character
  if name.isEmpty ∨ special then
    if name.contains Shell.apostrophe ∧ name.contains '"' = false then '"' :: name ++ ['"']
    else marked name
  else name

namespace Known

def unknownLetter (letter : Char) : Text :=
  "invalid option -- ".toList ++ marked [letter]

def missingValue (option : Text) : Text :=
  "option requires an argument -- ".toList ++ marked option

/-- Reads the letters of one argument, given the arguments behind it. Gives the options, and
whether the next argument has been used. -/
def readLetters (known : Known) (next : Option Text) : Text →
    Except Text (List (Char × Text) × Bool)
  | [] => .ok ([], false)
  | letter :: rest =>
    match known.letters.lookup letter with
    | none => .error (unknownLetter letter)
    | some true =>
      if rest.isEmpty then
        match next with
        | none => .error (missingValue [letter])
        | some value => .ok ([(letter, value)], true)
      else .ok ([(letter, rest)], false)
    | some false => do
      let (options, isUsed) ← readLetters known next rest
      return ((letter, []) :: options, isUsed)

/-- The word that a text is, or the beginning of. -/
def findWord (known : Known) (text : Text) : Except Text (String × Char × Bool) :=
  let candidates := known.words.filter fun (word, _, _) => text.isPrefixOf word.toList
  let exact := candidates.find? fun (word, _, _) => word.toList = text
  let shown := marked ('-' :: '-' :: text)
  match exact, candidates with
  | some found, _ => .ok found
  | none, [found] => .ok found
  | none, [] => .error ("unrecognized option ".toList ++ shown)
  | none, several =>
    .error ("option ".toList ++ shown ++ " is ambiguous; possibilities:".toList ++
      several.flatMap fun (word, _, _) => ' ' :: marked ('-' :: '-' :: word.toList))

/-- Reads an option that is a word, given the next argument. -/
def readWord (known : Known) (next : Option Text) (text : Text) :
    Except Text ((Char × Text) × Bool) := do
  let name := text.takeWhile (· ≠ '=')
  let (word, letter, takesValue) ← known.findWord name
  let shown := marked ("--".toList ++ word.toList)
  match text.drop name.length, takesValue with
  | '=' :: value, true => return ((letter, value), false)
  | '=' :: _, false => throw ("option ".toList ++ shown ++ " doesn\x27t allow an argument".toList)
  | _, false => return ((letter, []), false)
  | _, true =>
    match next with
    | some value => return ((letter, value), true)
    | none => throw ("option ".toList ++ shown ++ " requires an argument".toList)

/-- Reads arguments. The flag says whether the next one has been used already. -/
def readFrom (known : Known) : Bool → List Text → Except Text Given
  | _, [] => .ok ⟨[], []⟩
  | true, _ :: rest => readFrom known false rest
  | false, ['-', '-'] :: rest => .ok ⟨[], rest⟩
  | false, ('-' :: '-' :: word) :: rest => do
    let ((letter, value), isUsed) ← known.readWord rest.head? word
    return (← readFrom known isUsed rest).add letter value
  | false, ('-' :: letter :: letters) :: rest => do
    let (options, isUsed) ← known.readLetters rest.head? (letter :: letters)
    let given ← readFrom known isUsed rest
    return { given with options := options ++ given.options }
  | false, operand :: rest => do
    if known.inFront then return ⟨[], operand :: rest⟩
    let given ← readFrom known false rest
    return { given with operands := operand :: given.operands }

end Known

namespace Invocation

def writeError (text : Text) : Action Unit := do
  let _ ← Action.reply (.write 2 text)

def complain (invocation : Invocation) (words : Text) : Action Unit :=
  writeError (invocation.name ++ ": ".toList ++ words ++ ['\n'])

/-- Writes a complaint about how the program was started, and where to look that up. -/
def complainOfUse (invocation : Invocation) (words : Text) : Action Unit := do
  invocation.complain words
  writeError ("Try ".toList ++ marked (invocation.name ++ " --help".toList) ++
    " for more information.\n".toList)

/-- Writes to the output. If that is not possible, the program ends. -/
def write (invocation : Invocation) (text : Text) : Action Unit := do
  if text.isEmpty then return ()
  match ← Action.reply (.write 1 text) with
  | .ok () => return ()
  | .error fault =>
    invocation.complain ("write error: ".toList ++ fault.words)
    .exit 1

/-- Reads options, and goes on with them. Where they cannot be read, the program ends with a
status. -/
def withGiven (invocation : Invocation) (known : Known) (status : Nat)
    (goOn : Given → Action Nat) : Action Nat :=
  match known.readFrom false invocation.arguments with
  | .ok given => goOn given
  | .error words => do
    invocation.complainOfUse words
    return status

def missingOperand (invocation : Invocation) : Action Nat := do
  invocation.complainOfUse "missing operand".toList
  return 1

/-- Does something with each of several values, and gives the greatest status. -/
def each {Value : Type} (step : Value → Action Nat) : Nat → List Value → Action Nat
  | status, [] => return status
  | status, value :: rest => do
    let next ← step value
    each step (max status next) rest

end Invocation

def operandDescriptor : Nat := 1000

/-- Reads all that an operand names, or the fault that this meets. A hyphen names the
input. The flag of the fault says that it was met at the opening. -/
def readOperand (operand : Text) : Action (Except (Bool × Fault) Text) := do
  if operand = ['-'] then readHere 0
  else
    match ← Action.reply (.openFile operand .read operandDescriptor) with
    | .error fault => return .error (true, fault)
    | .ok () =>
      let text ← readHere operandDescriptor
      Action.reply (.close operandDescriptor)
      return text
where
  /-- Reads all that a descriptor gives. -/
  readHere (descriptor : Nat) : Action (Except (Bool × Fault) Text) := do
    match ← Action.reply (.read descriptor Action.pieceSize) with
    | .error fault => return .error (false, fault)
    | .ok piece =>
      let rest ← if piece.isEmpty then pure [] else Action.readAll descriptor
      return .ok (piece ++ rest)

/-- The lines of a text, each with the line feed that ends it. -/
def closedLines (text : Text) : List Text :=
  text.foldr
    (fun character lines =>
      if character = '\n' then ['\n'] :: lines
      else
        match lines with
        | [] => [[character]]
        | line :: rest => (character :: line) :: rest)
    []

end ScriptDesk.Tool

import ScriptDesk.Shell.Token

/-!
# Readers

A script is read from its front, one character after the other, and no further than its
meaning is known: commands that have been read may change how the rest is to be read. A
reader knows the text that is still to be read, the number of the line, and the token that
was read last. An alias is read as if its text stood in the script; a mark behind that text
says that the alias may be used again.
-/

namespace ScriptDesk.Shell

/-- Why a script cannot be read: what is wrong, and the line in which that was found. -/
structure ReadingFault where
  line : Nat
  words : Text

/-- What the next token may be in place of a word. -/
structure Checks where
  /-- Line ends are skipped. -/
  lineEnds : Bool
  keywords : Bool
  aliases : Bool
  /-- The word ends a document, so that nothing in it is to be worked out. -/
  endMark : Bool
deriving DecidableEq

namespace Checks

/-- A word is nothing else. -/
def none : Checks := ⟨false, false, false, false⟩

/-- A command may begin on one of the next lines. -/
def onNextLines : Checks := ⟨true, true, true, false⟩

/-- A command may begin here. -/
def here : Checks := ⟨false, true, true, false⟩

end Checks

/-- A document that is to be read behind the line at hand. -/
structure AwaitedDocument where
  number : Nat
  endMark : Text
  /-- Tabs at the beginning of lines are left out. -/
  stripsTabs : Bool
  /-- Nothing in the document is to be worked out. -/
  isLiteral : Bool

/-- What is known while a script is read. -/
structure Reader where
  rest : Text
  line : Nat
  token : Token
  isPushedBack : Bool
  word : Word
  wordIsQuoted : Bool
  /-- The redirection that was read last, without its target. -/
  redirection : Word → Redirection
  /-- The document that the redirection asks for, if it asks for one. -/
  document : Option Bool
  checks : Checks
  awaited : List AwaitedDocument
  documents : List (Nat × Word)
  nextDocument : Nat
  aliases : List (Text × Text)
  activeAliases : List Text

/-- Reading something. -/
abbrev Reading := StateT Reader (Except ReadingFault)

namespace Reader

/-- A reader of a text that begins in a given line. -/
def start (text : Text) (line : Nat) (aliases : List (Text × Text)) (nextDocument : Nat) :
    Reader where
  rest := text
  line := line
  token := .endOfFile
  isPushedBack := false
  word := []
  wordIsQuoted := false
  redirection := .copy 0
  document := .none
  checks := .none
  awaited := []
  documents := []
  nextDocument := nextDocument
  aliases := aliases
  activeAliases := []

/-- Stands behind the text of an alias, where it ends a word. -/
def aliasEnd : Char := Char.ofNat 256

/-- Stands behind the text of an alias that ends with a blank. The word behind it may be
an alias, too. -/
def openAliasEnd : Char := Char.ofNat 257

end Reader

namespace Reading

/-- Gives up. -/
def fail {Value : Type} (words : Text) : Reading Value := fun reader =>
  .error ⟨reader.line, words⟩

/-- The alias whose text ends here may be used again. -/
def endAlias : Reading Unit :=
  modify fun reader => { reader with activeAliases := reader.activeAliases.drop 1 }

/-- The text without the marks of aliases that end before its first character, and their
number. -/
def skipAliasEnds : Nat → Text → Nat × Text
  | count, [] => (count, [])
  | count, character :: rest =>
    if character = Reader.openAliasEnd then skipAliasEnds (count + 1) rest
    else (count, character :: rest)

def next : Reading (Option Char) := fun reader =>
  match reader.rest with
  | [] => .ok (none, reader)
  | character :: rest =>
    if character = Reader.openAliasEnd then
      let (count, rest) := skipAliasEnds 1 rest
      let past := { reader with
        activeAliases := reader.activeAliases.drop count
        checks := { reader.checks with aliases := true } }
      match rest with
      | [] => .ok (none, { past with rest := [] })
      | character :: rest => .ok (some character, { past with rest := rest })
    else .ok (some character, { reader with rest := rest })

/-- Gives a character back, which is then the next one. -/
def giveBack (character : Option Char) : Reading Unit := fun reader =>
  match character with
  | none => .ok ((), reader)
  | some character => .ok ((), { reader with rest := character :: reader.rest })

def countLine : Reading Unit :=
  modify fun reader => { reader with line := reader.line + 1 }

/-- The text from the first place on where no line is continued, and the number of lines
that end before. -/
def skipContinuations : Nat → Text → Nat × Text
  | count, '\\' :: '\n' :: rest => skipContinuations (count + 1) rest
  | count, text => (count, text)

/-- The next character behind continued lines. -/
def nextJoined : Reading (Option Char) := fun reader =>
  match reader.rest with
  | '\\' :: '\n' :: rest =>
    let (count, rest) := skipContinuations 1 rest
    next { reader with rest := rest, line := reader.line + count }
  | _ => next reader

/-- Reads characters as long as they pass a test, in front of what has been read. -/
def joinedWhile (test : Char → Bool) : Nat → Text → Option Char →
    Reading (Text × Option Char)
  | 0, found, character => pure (found.reverse, character)
  | bound + 1, found, character =>
    match character with
    | none => pure (found.reverse, none)
    | some letter =>
      if test letter then do
        let following ← nextJoined
        joinedWhile test bound (letter :: found) following
      else pure (found.reverse, some letter)

/-- Skips a remark, up to the end of the line. -/
def skipRemark : Reading Unit :=
  modify fun reader => { reader with rest := reader.rest.dropWhile (· ≠ '\n') }

end Reading

end ScriptDesk.Shell

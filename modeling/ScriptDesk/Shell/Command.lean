import ScriptDesk.Text.Basic

/-!
# Commands of the shell

The words of a script and the commands that it is made of. A word consists of parts, some of
which are worked out only when a command is run: the values of parameters, the output of
commands, and sums. Characters stand for single octets.

Where messages name a line, a command has the number of the line that it stands in. The
documents that are written into a script stand behind the line that asks for them, and are
kept beside the commands under a number.
-/

namespace ScriptDesk.Shell

/-- Which value of a parameter is meant. -/
inductive Choice where
  /-- The word in place of a parameter that is not set. -/
  | default
  /-- The word, which the parameter is also set to. -/
  | assign
  /-- The word in place of a parameter that is set. -/
  | instead
  /-- An error if the parameter is not set. -/
  | demand
deriving DecidableEq, Repr

/-- How a redirection opens its target. -/
inductive FileUse where
  | input
  | output
  /-- Output, even where files are protected. -/
  | overwrite
  | append
  | update
deriving DecidableEq, Repr

mutual

/-- A part of a word. -/
inductive Part where
  /-- Characters without quotation. -/
  | bare (text : Text)
  /-- Quoted characters, which stand for themselves. -/
  | quoted (text : Text)
  /-- A quotation mark, which makes a word even where there is nothing else. -/
  | edge
  /-- The value of a parameter, with a note on whether it is quoted. -/
  | parameter (name : Text) (use : Use) (quoted : Bool)
  /-- The output of a command, which may be missing. -/
  | output (script : Option Command) (quoted : Bool)
  | sum (expression : List Part) (quoted : Bool)

/-- What is made of the value of a parameter. -/
inductive Use where
  | plain
  /-- The number of its characters. -/
  | length
  /-- The value or a word, as the choice says; the flag says whether an empty value counts
  as none. -/
  | choice (choice : Choice) (emptyToo : Bool) (word : List Part)
  /-- The value without what a pattern matches at its front or its end. -/
  | trimmed (front longest : Bool) (pattern : List Part)
  /-- Nothing that is known. -/
  | unknown

/-- A redirection of a descriptor. -/
inductive Redirection where
  | file (descriptor : Nat) (use : FileUse) (target : List Part)
  /-- A copy of another descriptor, or none. -/
  | copy (descriptor : Nat) (source : List Part)
  /-- A document that is written into the script. -/
  | document (descriptor number : Nat)

/-- A command. -/
inductive Command where
  | simple (line : Nat) (assignments words : List (List Part))
      (redirections : List Redirection)
  | redirected (line : Nat) (command : Option Command) (redirections : List Redirection)
  | pipeline (commands : List Command) (background : Bool)
  | background (line : Nat) (command : Option Command) (redirections : List Redirection)
  | subshell (line : Nat) (command : Option Command) (redirections : List Redirection)
  | negated (command : Command)
  | both (first second : Command)
  | either (first second : Command)
  | sequence (first second : Command)
  | conditional (test yes no : Option Command)
  /-- A loop that goes on as long as its test comes out as the flag says. -/
  | loop (while_ : Bool) (test body : Option Command)
  | each (line : Nat) (name : Text) (words : List (List Part)) (body : Option Command)
  | selection (line : Nat) (word : List Part)
      (cases : List (List (List Part) × Option Command))
  | definition (line : Nat) (name : Text) (body : Option Command)

end

/-- A word as its parts. -/
abbrev Word := List Part

def isNameChar (character : Char) : Bool :=
  character.isAlphanum || character = '_'

def beginsName (character : Char) : Bool :=
  character.isAlpha || character = '_'

def isName (text : Text) : Bool :=
  (text.head?.map beginsName).getD false && text.all isNameChar

/-- The mark that begins and ends a text without any further meaning. -/
def apostrophe : Char := Char.ofNat 39

/-- The mark that begins and ends an older form of command output. -/
def graveAccent : Char := Char.ofNat 96

/-- The name that an assignment begins with, and the word that is assigned. -/
def assignment? : Word → Option (Text × Word)
  | .bare text :: rest =>
    let name := text.takeWhile isNameChar
    match text.dropWhile isNameChar with
    | '=' :: value =>
      if isName name then some (name, if value.isEmpty then rest else .bare value :: rest)
      else none
    | _ => none
  | _ => none

/-- The text of a word in which nothing is quoted and nothing is to be worked out. -/
def plainText? : Word → Option Text
  | [.bare text] => some text
  | _ => none

end ScriptDesk.Shell

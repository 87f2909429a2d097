import ScriptDesk.System.Search
import ScriptDesk.Text.Utf8

/-!
# Executing files

What it means to execute a file: it is a program, or says in its first line which program is
to read it. What is given to a program must not be too long.
-/

namespace ScriptDesk.Execution

/-- How many of the first octets of a file may name its interpreter. -/
def headLimit : Nat := 256

/-- The interpreter that the first line of a file names, and its argument. The name ends
before an octet that no name can hold. It must end within the first octets. -/
def namedInterpreter? (octets : Octets) : Option (Text × Option Text) :=
  match Utf8.toCharacters (octets.take headLimit) with
  | '#' :: '!' :: rest =>
    let isBlank (character : Char) : Bool := character = ' ' ∨ character = '\t'
    let isEnd (character : Char) : Bool := isBlank character ∨ character = '\x00'
    let whole := (rest.takeWhile (· ≠ '\n')).dropWhile isBlank
    let isCut := decide (headLimit < octets.length) && !rest.contains '\n' && !whole.any isEnd
    let line := Text.dropTrailing isBlank whole
    let name := line.takeWhile fun character => !isEnd character
    if name.isEmpty ∨ isCut = true then none
    else
      match line.drop name.length with
      | ' ' :: argument => some (name, named (argument.dropWhile isBlank))
      | '\t' :: argument => some (name, named (argument.dropWhile isBlank))
      | _ => some (name, none)
  | _ => none
where
  /-- An argument that is not empty. -/
  named (argument : Text) : Option Text :=
    let text := argument.takeWhile (· ≠ '\x00')
    if text.isEmpty then none else some text

/-- How many files may name one another before one of them names a program. -/
def interpreterLimit : Nat := 6

/-- The greatest number of octets of an argument, and of all that a program is given. -/
def argumentLimit : Nat := 131071

/-- The greatest number of octets of all that a program is given. -/
def totalLimit : Nat := 2097152

def tooLong : Fault := .system 7

/-- The name of the program that a path leads to, and its arguments, the first of which is
its name. A file that names an interpreter becomes an argument of that one. The bound is how
many files may do so. -/
def target (tree : FileTree) : Nat → Text → List Text → Except Fault (Text × List Text)
  | 0, _, _ => .error .tooManyLinks
  | bound + 1, path, arguments => do
    match ← tree.find path with
    | .tool name => return (name, arguments)
    | .file octets true =>
      match namedInterpreter? octets with
      | none => throw .notExecutable
      | some (interpreter, argument) =>
        target tree bound interpreter
          (interpreter :: argument.toList ++ path :: arguments.drop 1)
    | _ => throw .notPermitted

/-- Whether something is too long that a program is given. -/
def isTooLong (arguments : List Text) (environment : List (Text × Text)) : Bool :=
  let texts := arguments ++ environment.map fun (name, value) => name ++ '=' :: value
  texts.any (argumentLimit < ·.length) ||
    decide (totalLimit < texts.foldl (fun total text => total + text.length + 9) 0)

/-- What is to be started from a path: the name of a program and its arguments. -/
def resolve (tree : FileTree) (path : Text) (arguments : List Text)
    (environment : List (Text × Text)) : Except Fault (Text × List Text) := do
  let found ← target tree interpreterLimit path arguments
  if isTooLong found.2 environment then throw tooLong else return found

end ScriptDesk.Execution

import ScriptDesk.FileTree.Change
import ScriptDesk.Shell.Lookup

/-!
# Changing the working directory

The shell knows its working directory by the names that led there, so that the directory
above it is the one before the last name, even behind a symbolic link.
-/

namespace ScriptDesk.Shell.Builtin

open Run

/-- The components of an absolute path behind those that are given in reverse order. -/
def followNames (before : List Text) : List Text → List Text
  | [] => before.reverse
  | name :: rest =>
    if name.isEmpty ∨ name = ['.'] then followNames before rest
    else if name = ['.', '.'] then followNames (before.drop 1) rest
    else followNames (name :: before) rest

/-- A path seen from a directory, as an absolute path without detours. -/
def namedPath (directory path : Text) : Text :=
  let names := Text.pieces '/' path
  let before :=
    if path.head? = some '/' then []
    else (Text.pieces '/' directory).filter fun name => !name.isEmpty
  FileTree.pathText (followNames before.reverse names)

/-- Makes a directory the working directory. Tells whether that was possible. -/
def enterDirectory (isPhysical : Bool) (path : Text) : Run Bool := do
  let before ← state
  let target := if isPhysical then path else namedPath before.directory path
  match ← ask (.alter (FileTree.enterDirectory target)) with
  | .error _ => return false
  | .ok () =>
    let tree ← ask .look
    let reached := if isPhysical then FileTree.pathText tree.workingDirectory else target
    assign "OLDPWD".toList before.directory true
    assign "PWD".toList reached true
    change fun state => { state with
      directory := reached
      found := state.found.map fun known => { known with isOld := true } }
    return true

/-- Whether a path begins at the root or at the working directory. -/
def hasFixedStart (path : Text) : Bool :=
  path.head? = some '/' ||
    match Text.pieces '/' path with
    | first :: _ => first = ['.'] || first = ['.', '.']
    | [] => false

/-- The first directory of a list that has a directory of a name, with a note on whether it is
another one than the working directory. -/
def listedDirectory? (tree : FileTree) (name : Text) : List Text → Option (Text × Bool)
  | [] => none
  | directory :: rest =>
    let path := Search.inListed directory name
    match tree.find path with
    | .ok .directory => some (path, directory.isEmpty = false)
    | _ => listedDirectory? tree name rest

/-- Changes the working directory. A hyphen leads back to the former one. -/
def changeDirectory (arguments : List Text) : Run Nat := do
  let (found, operands) ← options [('L', false), ('P', false)] arguments
  let isPhysical := (found.getLast?.map Prod.fst) = some 'P'
  let before ← state
  let goesBack := operands.head? = some ['-']
  let wanted :=
    if goesBack then before.valueOf "OLDPWD"
    else operands.headD (before.valueOf "HOME")
  let name := if wanted.isEmpty then ['.'] else wanted
  let listed :=
    if hasFixedStart wanted then none
    else
      match before.value? "CDPATH".toList with
      | some directories => some (Text.pieces ':' directories)
      | none => none
  let tree ← ask .look
  let (path, isElsewhere) := (listed.bind (listedDirectory? tree name)).getD (name, false)
  if ← enterDirectory isPhysical path then
    if goesBack ∨ isElsewhere then output ((← state).directory ++ ['\n']) else return 0
  else fail ("can't cd to ".toList ++ wanted)

/-- Writes the working directory. -/
def printDirectory (arguments : List Text) : Run Nat := do
  let (found, _) ← options [('L', false), ('P', false)] arguments
  if (found.getLast?.map Prod.fst) = some 'P' then
    output (FileTree.pathText (← ask .look).workingDirectory ++ ['\n'])
  else output ((← state).directory ++ ['\n'])

end ScriptDesk.Shell.Builtin

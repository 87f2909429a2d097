import ScriptDesk.FileTree

/-!
# Changing files

The changes that programs make to directories: entering, removing and renaming.
-/

namespace ScriptDesk.FileTree

/-- Something of that name exists already. -/
def nameTaken : Fault := .system 17

/-- A directory that should be empty is not. -/
def notEmpty : Fault := .system 39

/-- The absolute path of something new, for which there must be a directory. -/
def vacancy (tree : FileTree) (path : Text) : Except Fault (List Text) := do
  let absolute ← tree.place path
  if (tree.node? absolute).isSome then throw nameTaken
  if tree.node? absolute.dropLast = some .directory then return absolute else throw .notFound

def makeDirectory (path : Text) (tree : FileTree) : Except Fault FileTree := do
  return tree.enter (← tree.vacancy path) .directory

def makeLink (target path : Text) (tree : FileTree) : Except Fault FileTree := do
  return tree.enter (← tree.vacancy path) (.link target)

/-- Makes an empty file, unless there is something already. -/
def touch (path : Text) (tree : FileTree) : Except Fault FileTree := do
  let absolute ← tree.follow path
  match tree.node? absolute with
  | some _ => return tree
  | none =>
    if tree.node? absolute.dropLast = some .directory then
      return tree.enter absolute (.file [] false)
    else throw .notFound

/-- Removes something that is no directory. -/
def removeFile (path : Text) (tree : FileTree) : Except Fault FileTree := do
  let absolute ← tree.place path
  match tree.node? absolute with
  | none => throw .notFound
  | some .directory => throw .isDirectory
  | some _ => return tree.remove absolute

def removeDirectory (path : Text) (tree : FileTree) : Except Fault FileTree := do
  let absolute ← tree.place path
  match tree.node? absolute with
  | none => throw .notFound
  | some .directory =>
    if (tree.namesIn absolute).isEmpty then return tree.remove absolute else throw notEmpty
  | some _ => throw .notDirectory

/-- A path in which one beginning takes the place of another. -/
def replaceBeginning (source target path : List Text) : List Text :=
  if source.isPrefixOf path then target ++ path.drop source.length else path

/-- Renames something with all that is below it, in place of what has the new name. -/
def rename (source target : Text) (tree : FileTree) : Except Fault FileTree := do
  let from_ ← tree.place source
  let to_ ← tree.place target
  match tree.node? from_, tree.node? to_ with
  | none, _ => throw .notFound
  | some .directory, some .directory =>
    if ¬ (tree.namesIn to_).isEmpty then throw notEmpty
  | some .directory, some _ => throw .notDirectory
  | some _, some .directory => throw .isDirectory
  | some _, _ => pure ()
  if tree.node? to_.dropLast ≠ some .directory then throw .notFound
  if from_ = to_ then return tree
  if from_.isPrefixOf to_ then throw (.system 22)
  let cleared := tree.remove to_
  return { cleared with
    entries := cleared.entries.map fun (path, node) =>
      (replaceBeginning from_ to_ path, node) }

def setExecutable (path : Text) (executable : Bool) (tree : FileTree) :
    Except Fault FileTree := do
  let absolute ← tree.follow path
  match tree.node? absolute with
  | none => throw .notFound
  | some (.file octets _) => return tree.enter absolute (.file octets executable)
  | some _ => return tree

def enterDirectory (path : Text) (tree : FileTree) : Except Fault FileTree := do
  let absolute ← tree.follow path
  match tree.node? absolute with
  | some .directory => return { tree with workingDirectory := absolute }
  | some _ => throw .notDirectory
  | none => throw .notFound

end ScriptDesk.FileTree

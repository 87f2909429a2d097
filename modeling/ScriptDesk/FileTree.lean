import ScriptDesk.Fault
import ScriptDesk.Text.Utf8

/-!
# Files

Files and directories under their paths, with a working directory. Paths and names are rows
of octets. A path is followed component by component; a component that is not the last one,
or that has a slash behind it, must be a directory. A symbolic link on the way is replaced
by what it points to.
-/

namespace ScriptDesk

/-- A device of the system. -/
inductive Device where
  /-- Is empty when it is read, and takes everything that is written. -/
  | null
  /-- Gives zero octets without end, and takes everything that is written. -/
  | zero
  /-- Gives zero octets without end, and has no space for anything that is written. -/
  | full
  /-- A terminal that no process has. -/
  | terminal
  /-- Whatever a descriptor of the process at hand leads to. -/
  | descriptor (number : Nat)
deriving DecidableEq, Repr

/-- What stands under a path. -/
inductive Node where
  | directory
  /-- A file with its octets, which may be executable. -/
  | file (octets : Octets) (executable : Bool)
  /-- A symbolic link to a path. -/
  | link (target : Text)
  | device (device : Device)
  /-- A program of the system. -/
  | tool (name : Text)
deriving DecidableEq, Repr

/-- What is entered under absolute paths, given by their components, and the working
directory. The directories on the way to an entry are entered as well. -/
structure FileTree where
  entries : List (List Text × Node)
  workingDirectory : List Text
deriving Repr

namespace FileTree

/-- The greatest number of octets of a name. -/
def nameLimit : Nat := 255

/-- One more than the greatest number of octets of a path. -/
def pathLimit : Nat := 4096

/-- How many symbolic links may be followed one within the other. -/
def linkLimit : Nat := 40

/-- The components of a path, empty ones included. -/
def components : Text → List Text
  | [] => [[]]
  | character :: rest =>
    if character = '/' then [] :: components rest
    else Text.extendFirst character (components rest)

/-- An absolute path, given by its components, as a text. -/
def pathText (path : List Text) : Text :=
  if path.isEmpty then ['/'] else path.flatMap fun name => '/' :: name

/-- What stands under an absolute path. -/
def node? (tree : FileTree) (path : List Text) : Option Node :=
  if path.isEmpty then some .directory
  else (tree.entries.find? fun (entered, _) => entered = path).map Prod.snd

/-- Follows one component from an absolute path, given how the target of a symbolic link
is followed. -/
def stepInto (followLink : List Text → Text → Except Fault (List Text)) (tree : FileTree)
    (path : List Text) (component : Text) : Except Fault (List Text) :=
  match tree.node? path with
  | none => .error .notFound
  | some .directory =>
    if component.isEmpty ∨ component = ['.'] then .ok path
    else if component = ['.', '.'] then .ok path.dropLast
    else if nameLimit < component.length then .error .nameTooLong
    else
      match tree.node? (path ++ [component]) with
      | some (.link target) => followLink path target
      | _ => .ok (path ++ [component])
  | some _ => .error .notDirectory

/-- Follows a path from a directory. The bound is how many links may be followed. -/
def followFrom (tree : FileTree) : Nat → List Text → Text → Except Fault (List Text)
  | 0, _, _ => .error .tooManyLinks
  | links + 1, directory, path =>
    match path with
    | '/' :: rest => (components rest).foldlM (stepInto (followFrom tree links) tree) []
    | _ => (components path).foldlM (stepInto (followFrom tree links) tree) directory

/-- The fault of a path that leads nowhere whatever files there are. -/
def pathFault? (path : Text) : Option Fault :=
  if path.contains '\x00' then some .nameHoldsNul
  else if path.isEmpty then some .notFound
  else if pathLimit ≤ path.length then some .nameTooLong
  else none

/-- The absolute path that a path leads to, which may be the path of nothing. -/
def follow (tree : FileTree) (path : Text) : Except Fault (List Text) :=
  match pathFault? path with
  | some fault => .error fault
  | none => followFrom tree (linkLimit + 1) tree.workingDirectory path

/-- The directory part of a path and its last component, without slashes behind it. -/
def splitPath (path : Text) : Text × Text :=
  let trimmed := Text.dropTrailing (· = '/') path
  let name := (trimmed.reverse.takeWhile (· ≠ '/')).reverse
  (trimmed.take (trimmed.length - name.length), name)

/-- The absolute path of what a path names itself, be it a symbolic link. -/
def place (tree : FileTree) (path : Text) : Except Fault (List Text) :=
  match pathFault? path with
  | some fault => .error fault
  | none =>
    let (directory, name) := splitPath path
    if name.isEmpty ∨ name = ['.'] ∨ name = ['.', '.'] then tree.follow path
    else do
      let holder ← if directory.isEmpty then .ok tree.workingDirectory else tree.follow directory
      stepInto (fun path _ => .ok (path ++ [name])) tree holder name

/-- What stands under a path. -/
def find (tree : FileTree) (path : Text) : Except Fault Node := do
  let absolute ← tree.follow path
  match tree.node? absolute with
  | some node => return node
  | none => throw .notFound

/-- The first octets of every program of the system, which are not text. -/
def toolOctets : Octets := [0x7F, 0x45, 0x4C, 0x46, 0x02, 0x01, 0x01, 0x00, 0xFF]

def readOctets (tree : FileTree) (path : Text) : Except Fault Octets := do
  match ← tree.find path with
  | .directory => throw .isDirectory
  | .file octets _ => return octets
  | .tool _ => return toolOctets
  | _ => return []

/-- The text of a file. Its path is given as text, too. -/
def readText (tree : FileTree) (path : Text) : Except Fault Text := do
  let octets ← tree.readOctets (Utf8.octetText path)
  match Utf8.decode octets with
  | .ok text => return text
  | .error _ => throw .notUtf8

def isFile (tree : FileTree) (path : Text) : Bool :=
  match tree.find path with
  | .ok (.file _ _) => true
  | .ok (.tool _) => true
  | _ => false

/-- Whether a path leads to a file that can be executed. -/
def isExecutable (tree : FileTree) (path : Text) : Bool :=
  match tree.find path with
  | .ok (.file _ executable) => executable
  | .ok (.tool _) => true
  | _ => false

/-- Enters something under an absolute path, in place of what stood there. -/
def enter (tree : FileTree) (path : List Text) (node : Node) : FileTree :=
  { tree with
    entries := (path, node) :: tree.entries.filter fun (entered, _) => entered ≠ path }

/-- Removes what stands under an absolute path. -/
def remove (tree : FileTree) (path : List Text) : FileTree :=
  { tree with entries := tree.entries.filter fun (entered, _) => entered ≠ path }

/-- The directories on the way to an absolute path. -/
def ancestors (path : List Text) : List (List Text) :=
  (List.range path.length).map path.take

/-- Enters something under an absolute path, with the directories on the way to it. -/
def enterDeep (tree : FileTree) (path : List Text) (node : Node) : FileTree :=
  let entered := (ancestors path).foldl
    (fun tree path =>
      if (tree.node? path).isNone then tree.enter path .directory else tree)
    tree
  match node, entered.node? path with
  | .directory, some .directory => entered
  | _, _ => entered.enter path node

def namesIn (tree : FileTree) (directory : List Text) : List Text :=
  tree.entries.filterMap fun (path, _) =>
    if path.length = directory.length + 1 ∧ directory.isPrefixOf path then path.getLast?
    else none

end FileTree

end ScriptDesk

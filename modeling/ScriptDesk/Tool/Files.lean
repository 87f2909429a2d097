import ScriptDesk.FileTree.Change
import ScriptDesk.Tool.Invocation

/-!
# Managing files

The programs that create, remove, copy, rename and list files.
-/

namespace ScriptDesk.Tool

open Invocation

/-- Makes a change to the files. If that is not possible, complains of an operand. -/
def changing (invocation : Invocation) (words : String) (operand : Text)
    (change : FileTree → Except Fault FileTree) : Action Nat := do
  match ← Action.reply (.alter change) with
  | .ok () => return 0
  | .error fault =>
    invocation.complain (words.toList ++ marked operand ++ ": ".toList ++ fault.words)
    return 1

/-- Removes a directory with all that is below it, or a file. -/
def removeAll (path : Text) (tree : FileTree) : Except Fault FileTree := do
  let absolute ← tree.place path
  if (tree.node? absolute).isNone then throw .notFound
  return { tree with
    entries := tree.entries.filter fun (entered, _) => absolute.isPrefixOf entered = false }

def removeOperand (invocation : Invocation) (given : Given) (operand : Text) : Action Nat := do
  let tree ← Action.reply .look
  let isRecursive := given.has 'r' || given.has 'R'
  let (_, last) := FileTree.splitPath operand
  let entry := (tree.place operand).toOption.bind tree.node?
  if isRecursive ∧ (last = ['.'] ∨ last = ['.', '.']) then
    invocation.complain
      ("refusing to remove '.' or '..' directory: skipping ".toList ++ marked operand)
    return 1
  else if entry.isNone ∧ given.has 'f' then return 0
  else
    let change :=
      if isRecursive then removeAll operand
      else if given.has 'd' ∧ entry = some .directory then FileTree.removeDirectory operand
      else FileTree.removeFile operand
    let status ← changing invocation "cannot remove " operand change
    if status = 0 ∧ given.has 'v' then
      let kind := if entry = some .directory then "removed directory " else "removed "
      invocation.write (kind.toList ++ marked operand ++ ['\n'])
    return status

def remove (invocation : Invocation) : Action Nat :=
  invocation.withGiven
    ⟨"rRfidvI".toList.map (·, false),
      [("recursive", 'r', false), ("force", 'f', false), ("dir", 'd', false),
        ("verbose", 'v', false)],
      false⟩ 1
    fun given =>
      if given.operands.isEmpty then
        if given.has 'f' then return 0 else invocation.missingOperand
      else Invocation.each (removeOperand invocation given) 0 given.operands

/-- The paths of the directories on the way to a path, and the path itself. -/
def pathsAbove (path : Text) : List Text :=
  let names := FileTree.components (Text.dropTrailing (· = '/') path)
  ((List.range names.length).map fun count =>
    Text.joinWith ['/'] (names.take (count + 1))).filter fun path => !path.isEmpty

/-- Makes the directories on the way to a path that are not there, and the path itself. -/
def makeDirectories (path : Text) (tree : FileTree) : Except Fault FileTree :=
  (pathsAbove path).foldlM
    (fun tree path =>
      match tree.find path with
      | .ok .directory => .ok tree
      | .ok _ => .error FileTree.nameTaken
      | .error .notFound => FileTree.makeDirectory path tree
      | .error fault => .error fault)
    tree

def makeDirectory (invocation : Invocation) : Action Nat :=
  invocation.withGiven
    ⟨[('p', false), ('v', false), ('m', true)],
      [("parents", 'p', false), ("verbose", 'v', false), ("mode", 'm', true)], false⟩ 1
    fun given =>
      if given.operands.isEmpty then invocation.missingOperand
      else
        Invocation.each
          (fun operand => do
            let before ← Action.reply .look
            let isNew := (before.find operand).toOption.isNone
            let change :=
              if given.has 'p' then makeDirectories operand else FileTree.makeDirectory operand
            let status ← changing invocation "cannot create directory " operand change
            if status = 0 ∧ isNew ∧ given.has 'v' then
              invocation.write
                (invocation.name ++ ": created directory ".toList ++ marked operand ++ ['\n'])
            return status)
          0 given.operands

def removeDirectory (invocation : Invocation) : Action Nat :=
  invocation.withGiven
    ⟨[('p', false), ('v', false)], [("parents", 'p', false), ("verbose", 'v', false)], false⟩ 1
    fun given =>
      let chain (operand : Text) : List Text :=
        if given.has 'p' then (pathsAbove operand).reverse else [operand]
      if given.operands.isEmpty then invocation.missingOperand
      else
        Invocation.each
          (fun operand =>
            changing invocation "failed to remove " operand (FileTree.removeDirectory operand))
          0 (given.operands.flatMap chain)

/-- Makes empty files where there are none. -/
def touch (invocation : Invocation) : Action Nat :=
  invocation.withGiven
    ⟨[('a', false), ('c', false), ('m', false), ('d', true), ('t', true), ('r', true)],
      [("no-create", 'c', false), ("date", 'd', true), ("reference", 'r', true)], false⟩ 1
    fun given =>
      if given.operands.isEmpty then do
        invocation.complainOfUse "missing file operand".toList
        return 1
      else if given.has 'c' then return 0
      else
        Invocation.each
          (fun operand => changing invocation "cannot touch " operand (FileTree.touch operand))
          0 given.operands

def baseName (path : Text) : Text :=
  let (_, name) := FileTree.splitPath path
  if name.isEmpty ∧ path.isEmpty = false then ['/'] else name

def nameBelow (directory name : Text) : Text :=
  Text.dropTrailing (· = '/') directory ++ '/' :: name

/-- What is copied or moved, and where to, or the words for why that cannot be told. -/
def transfers (tree : FileTree) (operands : List Text) :
    Except (Text × Bool) (List (Text × Text)) :=
  let isDirectory (path : Text) : Bool := (tree.find path).toOption = some .directory
  match operands with
  | [] => .error ("missing file operand".toList, true)
  | [only] => .error ("missing destination file operand after ".toList ++ marked only, true)
  | [source, target] =>
    .ok [(source, if isDirectory target then nameBelow target (baseName source) else target)]
  | several =>
    let target := several.getLast?.getD []
    if isDirectory target then
      .ok (several.dropLast.map fun source => (source, nameBelow target (baseName source)))
    else
      match tree.find target with
      | .ok _ => .error ("target ".toList ++ marked target ++ ": Not a directory".toList, false)
      | .error fault =>
        .error ("target ".toList ++ marked target ++ ": ".toList ++ fault.words, false)

/-- Puts a copy of a file, or of a directory with all that is below it, in a place. -/
def copyTo (source target : Text) (tree : FileTree) : Except Fault FileTree := do
  let origin ← tree.follow source
  let place ← tree.follow target
  if (tree.node? origin).isNone then throw .notFound
  if tree.node? place.dropLast ≠ some .directory then throw .notFound
  let copies := tree.entries.filter fun (path, _) => origin.isPrefixOf path
  return copies.foldl
    (fun tree (path, node) =>
      let path := place ++ path.drop origin.length
      match node, tree.node? path with
      | .directory, some .directory => tree
      | .tool _, _ => tree.enter path (.file FileTree.toolOctets true)
      | .file octets _, some (.file _ executable) => tree.enter path (.file octets executable)
      | node, _ => tree.enter path node)
    tree

/-- Copies or moves what operands name, as a step says. -/
def transferring (invocation : Invocation) (operands : List Text)
    (step : Text × Text → Action Nat) : Action Nat := do
  match transfers (← Action.reply .look) operands with
  | .error (words, isUse) =>
    if isUse then invocation.complainOfUse words else invocation.complain words
    return 1
  | .ok pairs =>
    Invocation.each
      (fun (source, target) => do
        let tree ← Action.reply .look
        match tree.place source, tree.place target with
        | .ok origin, .ok place =>
          if (tree.node? origin).isNone then
            invocation.complain ("cannot stat ".toList ++ marked source ++
              ": No such file or directory".toList)
            return 1
          else if origin = place then
            invocation.complain (marked source ++ " and ".toList ++ marked target ++
              " are the same file".toList)
            return 1
          else step (source, target)
        | .error fault, _ =>
          invocation.complain
            ("cannot stat ".toList ++ marked source ++ ": ".toList ++ fault.words)
          return 1
        | _, _ => step (source, target))
      0 pairs

/-- Copies files. -/
def copy (invocation : Invocation) : Action Nat :=
  invocation.withGiven
    ⟨"rRafpdniuvT".toList.map (·, false), [("recursive", 'r', false), ("force", 'f', false)],
      false⟩ 1
    fun given =>
      transferring invocation given.operands fun (source, target) => do
        let tree ← Action.reply .look
        let isRecursive := given.has 'r' || given.has 'R' || given.has 'a'
        if isRecursive = false ∧ (tree.find source).toOption = some .directory then
          invocation.complain
            ("-r not specified; omitting directory ".toList ++ marked source)
          return 1
        else changing invocation "cannot create regular file " target (copyTo source target)

/-- Renames files. -/
def move (invocation : Invocation) : Action Nat :=
  invocation.withGiven
    ⟨"fniuvT".toList.map (·, false), [("force", 'f', false), ("no-clobber", 'n', false)],
      false⟩ 1
    fun given =>
      transferring invocation given.operands fun (source, target) => do
        match ← Action.reply (.alter (FileTree.rename source target)) with
        | .ok () => return 0
        | .error fault =>
          invocation.complain ("cannot move ".toList ++ marked source ++ " to ".toList ++
            marked target ++ ": ".toList ++ fault.words)
          return 1

def link (invocation : Invocation) : Action Nat :=
  invocation.withGiven
    ⟨"sfnvT".toList.map (·, false), [("symbolic", 's', false), ("force", 'f', false)], false⟩ 1
    fun given => do
      let tree ← Action.reply .look
      let operands := match given.operands with
        | [only] => [only, ['.']]
        | several => several
      match transfers tree operands with
      | .error (words, isUse) =>
        if isUse then invocation.complainOfUse words else invocation.complain words
        return 1
      | .ok pairs =>
        Invocation.each
          (fun (source, target) => do
            let isTaken := ((tree.place target).toOption.bind tree.node?).isSome
            if given.has 'f' ∧ isTaken then
              let _ ← Action.reply (.alter (FileTree.removeFile target))
            let words := if given.has 's' then "failed to create symbolic link "
              else "failed to create hard link "
            changing invocation words target
              (if given.has 's' then FileTree.makeLink source target
                else fun tree => do
                  let _ ← tree.vacancy target
                  copyTo source target tree))
          0 pairs

/-- Whether a mode allows a file to be executed, given whether it could be before. -/
def modeExecutes? (before : Bool) (mode : Text) : Option Bool :=
  if mode.isEmpty then none
  else if mode.all fun digit => '0' ≤ digit && digit ≤ '7' then
    let bits := mode.foldl (fun bits digit => bits * 8 + (digit.toNat - 48)) 0
    some (bits &&& 73 ≠ 0)
  else (Text.pieces ',' mode).foldlM clause before
where
  /-- What one clause of a mode makes of it. -/
  clause (before : Bool) (text : Text) : Option Bool :=
    match text.dropWhile "ugoa".toList.contains with
    | operator :: letters =>
      if letters.all "rwxXst".toList.contains = false then none
      else
        let isNamed := letters.contains 'x' || (letters.contains 'X' && before)
        if operator = '+' then some (before || isNamed)
        else if operator = '-' then some (before && !isNamed)
        else if operator = '=' then some isNamed
        else none
    | [] => none

def changeMode (invocation : Invocation) : Action Nat := do
  match invocation.arguments.filter fun argument => argument ≠ ['-', 'R'] with
  | [] => invocation.missingOperand
  | [mode] =>
    invocation.complainOfUse ("missing operand after ".toList ++ marked mode)
    return 1
  | mode :: operands =>
    if (modeExecutes? false mode).isNone then
      invocation.complainOfUse ("invalid mode: ".toList ++ marked mode)
      return 1
    else
      Invocation.each
        (fun operand =>
          changing invocation "cannot access " operand fun tree =>
            FileTree.setExecutable operand
              ((modeExecutes? (tree.isExecutable operand) mode).getD false) tree)
        0 operands

def sortedNames (tree : FileTree) (given : Given) (directory : List Text) : List Text :=
  let names := tree.namesIn directory
  let dots := if given.has 'a' then [['.'], ['.', '.']] else []
  let shown := names.filter fun name =>
    given.has 'a' || given.has 'A' || name.head? ≠ some '.'
  let sorted := (dots ++ shown).mergeSort fun left right => !(decide (right < left))
  if given.has 'r' then sorted.reverse else sorted

def list (invocation : Invocation) : Action Nat :=
  invocation.withGiven
    ⟨"1aAdrCFpRtSUxlhinogGs".toList.map (·, false),
      [("all", 'a', false), ("almost-all", 'A', false), ("directory", 'd', false),
        ("reverse", 'r', false)],
      false⟩ 2
    fun given => do
      let tree ← Action.reply .look
      let operands := if given.operands.isEmpty then [['.']] else given.operands
      let found := operands.map fun operand =>
        let node := match tree.find operand with
          | .ok node => Except.ok node
          | .error fault =>
            match (tree.place operand).toOption.bind tree.node? with
            | some node => .ok node
            | none => .error fault
        (operand, node)
      let isShownAsDirectory (node : Except Fault Node) : Bool :=
        match node with
        | .ok .directory => !given.has 'd'
        | _ => false
      let bad := found.filter fun (_, node) => match node with
        | .error _ => true
        | .ok _ => false
      let inOrder (texts : List Text) : List Text :=
        let sorted := texts.mergeSort fun left right => !(decide (right < left))
        if given.has 'r' then sorted.reverse else sorted
      let files := inOrder ((found.filter fun (_, node) =>
        !isShownAsDirectory node && node.toOption.isSome).map Prod.fst)
      let directories := inOrder ((found.filter fun (_, node) =>
        isShownAsDirectory node).map Prod.fst)
      let isHeaded := decide (1 < operands.length)
      let _ ← Invocation.each
        (fun (operand, node) => do
          let words := match node with
            | .error fault => fault.words
            | .ok _ => []
          invocation.complain
            ("cannot access ".toList ++ marked operand ++ ": ".toList ++ words)
          return 0)
        0 bad
      let lines := files.flatMap fun name => name ++ ['\n']
      let blocks := directories.map fun directory =>
        let names := match tree.follow directory with
          | .ok absolute => sortedNames tree given absolute
          | .error _ => []
        (if isHeaded then directory ++ ":\n".toList else []) ++
          names.flatMap fun name => name ++ ['\n']
      let all := (if lines.isEmpty then [] else [lines]) ++ blocks
      invocation.write (Text.joinWith ['\n'] all)
      return if bad.isEmpty then 0 else 2

end ScriptDesk.Tool

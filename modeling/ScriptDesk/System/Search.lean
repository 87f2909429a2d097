import ScriptDesk.FileTree

/-!
# Searching for programs

Where a program is that only a name is known of: it is searched for in the directories of a
list. A file that is no program may be a script, which is then for a shell to carry out.
-/

namespace ScriptDesk.Search

/-- The directories in which programs are looked for where nothing else is said. -/
def defaultPath : Text :=
  "/usr/local/sbin:/usr/local/bin:/usr/sbin:/usr/bin:/sbin:/bin".toList

/-- The directories in which programs look for others where no variable lists any. -/
def plainPath : Text := "/bin:/usr/bin".toList

/-- A name in a directory of a list. An empty directory is the working directory. -/
def inListed (directory name : Text) : Text :=
  if directory.isEmpty then name else directory ++ '/' :: name

/-- Searches for a program in directories. If there is none, the fault is that of the last
thing that could not be it. -/
def searchDirectories (tree : FileTree) (name : Text) (fault : Fault) :
    List Text → Except Fault Text
  | [] => .error fault
  | directory :: rest =>
    let path := inListed directory name
    match tree.find path with
    | .error found =>
      let isAbsent := found = .notFound ∨ found = .notDirectory
      searchDirectories tree name (if isAbsent then fault else found) rest
    | .ok _ =>
      if tree.isExecutable path then .ok path
      else searchDirectories tree name .notPermitted rest

/-- The path of a program. A name with a slash is a path itself. -/
def programPath (tree : FileTree) (directories name : Text) : Except Fault Text :=
  if name.contains '/' then .ok name
  else searchDirectories tree name .notFound (Text.pieces ':' directories)

/-- How many of the first octets of a file tell whether it is a script. -/
def scriptSample : Nat := 128

/-- Whether a file can be read as a script: there are no control characters in its first
line but those that move along or begin a sequence. -/
def readsAsScript (octets : Octets) : Bool :=
  let line := (octets.take scriptSample).takeWhile (· ≠ 10)
  line.all fun octet =>
    (32 ≤ octet && octet ≠ 127) || (9 ≤ octet && octet ≤ 15) || octet = 27

/-- The shell that carries out files that are no programs. -/
def fileShell : Text := "/bin/sh".toList

end ScriptDesk.Search

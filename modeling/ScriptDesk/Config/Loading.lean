import ScriptDesk.CommandLine
import ScriptDesk.Config.Document
import ScriptDesk.FileTree

/-!
# Loading the configuration

The configuration comes from an explicit file, or from the default file if there is one,
or is built in. The environment variables are applied over it, and then the command line.
-/

namespace ScriptDesk

/-- The environment variables that matter. One that holds no text counts as unset.
`accountHome` is the home directory of the account, which is used where no variable names
one, and is empty if the account has none. -/
structure Environment where
  home : Option Text
  userProfile : Option Text
  configHome : Option Text
  accountHome : Text
  overrides : Config.Overrides
deriving DecidableEq, Repr

namespace Environment

/-- The home directory by which paths are shortened. -/
def shownHome (environment : Environment) : Option Text :=
  environment.userProfile.or environment.home

/-- The home directory under which the configuration is looked for. -/
def homeDirectory (environment : Environment) : Text :=
  match environment.home with
  | none => environment.accountHome
  | some home => if home.isEmpty then environment.accountHome else home

end Environment

namespace Config

def below (directory name : Text) : Text :=
  match directory.getLast? with
  | none => name
  | some last => if last = '/' then directory ++ name else directory ++ '/' :: name

/-- The directory for the configurations of all programs. -/
def configHome (environment : Environment) : Text :=
  match environment.configHome with
  | some ('/' :: rest) => '/' :: rest
  | _ => below environment.homeDirectory ".config".toList

def defaultPath (environment : Environment) : Text :=
  below (below (configHome environment) "scriptrunner".toList) "config.json".toList

def ofFile (tree : FileTree) (path : Text) : Except ConfigError Config :=
  match tree.readText path with
  | .error fault => .error (.unreadable path fault)
  | .ok text =>
    match decode text with
    | .error fault => .error (.invalid path fault)
    | .ok config => .ok config

/-- Whether there is a default file: without a home directory, nothing is looked for. -/
def hasDefault (tree : FileTree) (environment : Environment) : Bool :=
  !environment.homeDirectory.isEmpty &&
    tree.isFile (Utf8.octetText (defaultPath environment))

/-- The file that is chosen: the explicit one, or the default file if it is a file. -/
def chosenPath? (tree : FileTree) (environment : Environment) (explicit : Option Text) :
    Option Text :=
  match explicit with
  | some path => some path
  | none => if hasDefault tree environment then some (defaultPath environment) else none

def load (tree : FileTree) (environment : Environment) (explicit : Option Text) :
    Except ConfigError Config := do
  let config ←
    match chosenPath? tree environment explicit with
    | some path => ofFile tree path
    | none => .ok builtIn
  match config.applyOverrides environment.overrides with
  | (applied, none) => return applied
  | (_, some error) => throw error

end Config

def CommandLine.resolve (tree : FileTree) (environment : Environment) (line : CommandLine) :
    Except ConfigError Config :=
  (Config.load tree environment line.config).map line.overrideConfig

end ScriptDesk

import ScriptDesk.CommandLine

/-!
# Reading command lines

Arguments are read from left to right. A value that stands in an argument of its own is
kept until the next option or file, or the end, and used only then; a value that is
attached to its option is used at once. So of two errors the one that is come to first is
reported, except that an argument that nothing is known about is reported before the
value that is still kept.
-/

namespace ScriptDesk.CommandLine

/-- A place for a value that has been opened, with the value once it has been read. -/
structure Kept where
  slot : Slot
  value : Option Text
deriving DecidableEq, Repr

/-- How far a command line has been read. -/
structure Reading where
  line : CommandLine
  switches : List Switch
  slots : List Slot
  kept : Option Kept
  hasFile : Bool
  onlyFiles : Bool
deriving DecidableEq, Repr

namespace Reading

/-- Nothing has been read. -/
def start : Reading :=
  ⟨.empty, [], [], none, false, false⟩

def readPath (value : Text) : Except UsageError Text :=
  if value.isEmpty then .error .invalidValue else .ok value

/-- Puts a value in its place. -/
def store (line : CommandLine) (value : Text) : Slot → Except UsageError CommandLine
  | .file => (readPath value).map fun path => { line with file := some path }
  | .config => (readPath value).map fun path => { line with config := some path }
  | .interpreter => .ok { line with interpreter := some value }
  | .timeout =>
    match Text.readWord? value with
    | some seconds => .ok { line with timeout := some seconds }
    | none => .error .notANumber

/-- Uses a value, for which there may be only one place. -/
def useValue (reading : Reading) (slot : Slot) (value : Text) : Except UsageError Reading :=
  if slot ∈ reading.slots then .error .argumentConflict
  else (store reading.line value slot).map fun line =>
    { reading with line := line, slots := slot :: reading.slots }

/-- Uses the value that is kept, if there is one. -/
def settle (reading : Reading) : Except UsageError Reading :=
  match reading.kept with
  | none => .ok reading
  | some ⟨_, none⟩ => .error .invalidValue
  | some ⟨slot, some value⟩ => { reading with kept := none }.useValue slot value

def turnOn (line : CommandLine) : Switch → Except UsageError CommandLine
  | .interactive => .ok { line with interactive := true }
  | .gotoError => .ok { line with gotoError := true }
  | .noColour => .ok { line with noColour := true }
  | .help => .error .helpWanted
  | .version => .error .versionWanted

/-- Sets a switch, which may be given once. -/
def raise (reading : Reading) (switch : Switch) : Except UsageError Reading := do
  let settled ← reading.settle
  if switch ∈ settled.switches then throw .argumentConflict
  else
    let line ← turnOn settled.line switch
    return { settled with line := line, switches := switch :: settled.switches }

def attach (reading : Reading) (slot : Slot) (value : Text) : Except UsageError Reading := do
  let settled ← reading.settle
  settled.useValue slot value

/-- Opens a place for a value. -/
def expect (reading : Reading) (slot : Slot) (value : Option Text) :
    Except UsageError Reading := do
  let settled ← reading.settle
  return { settled with kept := some ⟨slot, value⟩ }

/-- The name in front of the first equals sign, and what follows the sign if there is one. -/
def splitName (text : Text) : Text × Option Text :=
  (text.takeWhile (· ≠ '='),
    match text.dropWhile (· ≠ '=') with
    | [] => none
    | _ :: value => some value)

def readLong (reading : Reading) (text : Text) : Except UsageError Reading :=
  let (name, value) := splitName text
  match longName? name, value with
  | none, _ => .error .unknownArgument
  | some (.switch _), some _ => .error .tooManyValues
  | some (.switch switch), none => reading.raise switch
  | some (.slot slot), some value => reading.attach slot value
  | some (.slot slot), none => reading.expect slot none

/-- A value that stands behind a letter, without the equals sign in between. -/
def valueBehind? : Text → Option Text
  | [] => none
  | '=' :: value => some value
  | value => some value

/-- Reads options given by their letters, of which the last may have a value. -/
def readLetters (reading : Reading) : Text → Except UsageError Reading
  | [] => .ok reading
  | letter :: rest =>
    match letter? letter with
    | none => .error .unknownArgument
    | some (.switch switch) => do
      let raised ← reading.raise switch
      raised.readLetters rest
    | some (.slot slot) =>
      match valueBehind? rest with
      | some value => reading.attach slot value
      | none => reading.expect slot none

def readFile (reading : Reading) (text : Text) : Except UsageError Reading :=
  if reading.hasFile then .error .unknownArgument
  else do
    let opened ← reading.expect .file (some text)
    return { opened with hasFile := true }

/-- Reads an argument that is no option: a value where one is awaited, or else a file. -/
def readPlain (reading : Reading) (text : Text) : Except UsageError Reading :=
  match reading.kept with
  | some ⟨slot, none⟩ => .ok { reading with kept := some ⟨slot, some text⟩ }
  | _ => reading.readFile text

def readArgument (reading : Reading) (argument : Text) : Except UsageError Reading :=
  if reading.onlyFiles then reading.readFile argument
  else
    match argument with
    | ['-', '-'] => .ok { reading with onlyFiles := true }
    | '-' :: '-' :: text => reading.readLong text
    | ['-'] => reading.readPlain argument
    | '-' :: letters => reading.readLetters letters
    | _ => reading.readPlain argument

def readAll (reading : Reading) (arguments : List Text) : Except UsageError Reading :=
  arguments.foldlM readArgument reading

end Reading

/-- What arguments say, the name of the program not among them. -/
def read (arguments : List Text) : Except UsageError CommandLine := do
  let reading ← Reading.start.readAll arguments
  let settled ← reading.settle
  return settled.line

end ScriptDesk.CommandLine

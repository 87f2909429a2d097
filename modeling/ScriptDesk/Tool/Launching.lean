import ScriptDesk.System.Search
import ScriptDesk.Tool.Words

/-!
# Starting other programs

The programs that start another program with changed surroundings, or as often as their input
asks for it.
-/

namespace ScriptDesk.Tool

open Invocation

/-- A program takes the place of the process. It is searched for in the directories that a
variable lists. -/
def become (environment : List (Text × Text)) (words : List Text) : Action Fault := do
  let name := words.headD []
  let directories := (environment.lookup "PATH".toList).getD Search.plainPath
  match Search.programPath (← Action.reply .look) directories name with
  | .error fault => return fault
  | .ok path =>
    let fault ← Action.reply (.startProgram path words environment)
    if fault = .notExecutable then
      Action.reply
        (.startProgram Search.fileShell (Search.fileShell :: path :: words.drop 1) environment)
    else return fault

/-- A program takes the place of the process, or the process ends with a complaint. -/
def becomeOrEnd (invocation : Invocation) (words : String)
    (environment : List (Text × Text)) (command : List Text) : Action Nat := do
  let name := command.headD []
  let fault ← become environment command
  invocation.complain (words.toList ++ marked name ++ ": ".toList ++ fault.words)
  return if fault = .notFound then 127 else 126

/-- Changes of variables in front of a command, and the command. -/
def splitSettings : List Text → List (Text × Text) × List Text
  | [] => ([], [])
  | word :: rest =>
    let name := word.takeWhile (· ≠ '=')
    match word.drop name.length with
    | '=' :: value =>
      let (settings, command) := splitSettings rest
      ((name, value) :: settings, command)
    | _ => ([], word :: rest)

def setVariable (environment : List (Text × Text)) (setting : Text × Text) :
    List (Text × Text) :=
  if environment.any fun (name, _) => name = setting.1 then
    environment.map fun (name, value) =>
      if name = setting.1 then setting else (name, value)
  else environment ++ [setting]

def wordsOf (text : Text) : List Text :=
  (Text.pieces ' ' (text.map fun character => if isGap character then ' ' else character)).filter
    fun word => !word.isEmpty

/-- Shows the variables, or starts a program with others. -/
def env (invocation : Invocation) : Action Nat :=
  invocation.withGiven
    ⟨[('i', false), ('u', true), ('0', false), ('S', true), ('C', true), ('v', false)],
      [("ignore-environment", 'i', false), ("unset", 'u', true), ("null", '0', false),
        ("split-string", 'S', true), ("chdir", 'C', true)],
      true⟩ 125
    fun given => do
      let split := ((given.value? 'S').map wordsOf).getD []
      let operands := split ++ given.operands
      let (isBare, operands) := match operands with
        | ['-'] :: rest => (true, rest)
        | operands => (given.has 'i', operands)
      let (settings, command) := splitSettings operands
      let unset := (given.options.filter fun (letter, _) => letter = 'u').map Prod.snd
      let inherited := (if isBare then [] else invocation.environment).filter fun (name, _) =>
        unset.contains name = false
      let environment := settings.foldl setVariable inherited
      match given.value? 'C' with
      | some directory =>
        let _ ← Action.reply (.alter (FileTree.enterDirectory directory))
      | none => pure ()
      match command with
      | [] =>
        let end_ : Text := if given.has '0' then ['\x00'] else ['\n']
        invocation.write (environment.flatMap fun (name, value) =>
          name ++ '=' :: value ++ end_)
        return 0
      | name :: _ =>
        let status ← becomeOrEnd invocation "" environment command
        if status = 127 ∧ name.any isGap then
          invocation.complain "use -[v]S to pass options in shebang lines".toList
        return status

/-- Starts a program that hangups do not end. -/
def nohup (invocation : Invocation) : Action Nat := do
  let command := match invocation.arguments with
    | ['-', '-'] :: rest => rest
    | command => command
  if command.isEmpty then
    invocation.complainOfUse "missing operand".toList
    return 125
  else
    Action.reply (.react 1 .ignored)
    becomeOrEnd invocation "failed to run command " invocation.environment command

/-- Starts a program as it stands behind options. -/
def startPlainly (valued : List Char) (invocation : Invocation) :
    Action Nat :=
  invocation.withGiven ⟨valued.map (·, true) ++ [('w', false), ('f', false), ('c', false)], [],
      true⟩ 125
    fun given =>
      if given.operands.isEmpty then return 0
      else becomeOrEnd invocation "" invocation.environment given.operands

/-- Waits for a child, and gives its status. The bound is how many other children may end
before. -/
def awaitChild (child : Nat) : Nat → Action Nat
  | 0 => return 0
  | bound + 1 => do
    match ← Action.reply (.wait false) with
    | .ended ended status =>
      if ended = child then return status.code.toNat else awaitChild child bound
    | .interrupted => awaitChild child bound
    | .childless => return 0

/-- Starts a process that does something. Gives its number. -/
def startChild (body : Action Nat) : Action Nat := do
  let number ← Action.reply .fork
  if number = 0 then .exit (← body) else return number

/-- Starts a program, and ends it with a signal if it takes too long. -/
def timeout (invocation : Invocation) : Action Nat :=
  invocation.withGiven
    ⟨[('s', true), ('k', true), ('v', false)],
      [("signal", 's', true), ("kill-after", 'k', true), ("foreground", 'v', false),
        ("preserve-status", 'p', false), ("verbose", 'v', false)],
      true⟩ 125
    fun given => do
      match given.operands with
      | [] => do
        invocation.complainOfUse "missing operand".toList
        return 125
      | [_] => do
        invocation.complainOfUse "missing operand".toList
        return 125
      | limit :: command =>
        match duration? limit with
        | none => do
          invocation.complainOfUse ("invalid time interval ".toList ++ marked limit)
          return 125
        | some time =>
          let signal := ((given.value? 's').bind fun name =>
            Shell.Signal.ofText? name 1).getD 15
          let child ← startChild
            (becomeOrEnd invocation "failed to run command " invocation.environment
              command)
          if time = 0 then awaitChild child Action.roundLimit
          else
            let killer ← startChild do
              Action.reply (.sleep time)
              let _ ← Action.reply (.signal (.process child) signal)
              match (given.value? 'k').bind duration? with
              | some later =>
                Action.reply (.sleep later)
                let _ ← Action.reply (.signal (.process child) 9)
                return 1
              | none => return 1
            match ← Action.reply (.wait false) with
            | .ended ended status =>
              if ended = child then
                let _ ← Action.reply (.signal (.process killer) 9)
                return status.code.toNat
              else
                let status ← awaitChild child Action.roundLimit
                return if given.has 'p' ∨ signal = 9 then status else 124
            | _ => return 124

/-- The arguments in a text: words between blanks, in which marks and backslashes take away
the meaning of characters. What has been read stands in reverse order. -/
def argumentsIn : Option Char → Option Text → List Text → Text → List Text
  | _, none, done, [] => done.reverse
  | _, some word, done, [] => (word.reverse :: done).reverse
  | some mark, word, done, character :: rest =>
    if character = mark then argumentsIn none word done rest
    else argumentsIn (some mark) (some (character :: word.getD [])) done rest
  | none, word, done, '\\' :: character :: rest =>
    argumentsIn none (some (character :: word.getD [])) done rest
  | none, word, done, character :: rest =>
    if isGap character then
      match word with
      | none => argumentsIn none none done rest
      | some word => argumentsIn none none (word.reverse :: done) rest
    else if character = Shell.apostrophe ∨ character = '"' then
      argumentsIn (some character) (some (word.getD [])) done rest
    else argumentsIn none (some (character :: word.getD [])) done rest

/-- Values in groups of a size. The bound is their number. -/
def inGroups {Value : Type} (size : Nat) : Nat → List Value → List (List Value)
  | 0, _ => []
  | bound + 1, values =>
    if values.isEmpty then [] else values.take size :: inGroups size bound (values.drop size)

/-- A text with another one in the place of a mark. -/
def withMark (mark new : Text) : Nat → Text → Text
  | 0, text => text
  | _, [] => []
  | bound + 1, character :: rest =>
    match Text.dropLeading? mark (character :: rest) with
    | some behind => new ++ withMark mark new bound behind
    | none => character :: withMark mark new bound rest

/-- Starts a program with arguments that are read from the input. -/
def xargs (invocation : Invocation) : Action Nat :=
  invocation.withGiven
    ⟨[('n', true), ('I', true), ('L', true), ('P', true), ('d', true), ('0', false),
        ('r', false), ('t', false)],
      [("max-args", 'n', true), ("replace", 'I', true), ("null", '0', false),
        ("no-run-if-empty", 'r', false), ("delimiter", 'd', true)],
      true⟩ 1
    fun given => do
      let text ← Action.readAll 0
      let command := if given.operands.isEmpty then ["echo".toList] else given.operands
      let lines := (closedLines text).map fun line => withoutFeed line
      let separated (separator : Char) : List Text :=
        let pieces := Text.pieces separator text
        if pieces.getLast? = some [] then pieces.dropLast else pieces
      let words :=
        if given.has '0' then separated '\x00'
        else
          match (given.value? 'd').bind List.head?, given.value? 'I' with
          | some separator, _ => separated separator
          | none, some _ =>
            (lines.map fun line => line.dropWhile isGap).filter fun line => !line.isEmpty
          | none, none => argumentsIn none none [] text
      let calls :=
        match given.value? 'I', given.value? 'n', given.value? 'L' with
        | some mark, _, _ =>
          words.map fun word => command.map fun part => withMark mark word part.length part
        | none, some size, _ =>
          (inGroups (max 1 (Text.digitsValue size)) (words.length + 1) words).map (command ++ ·)
        | none, none, some size =>
          (inGroups (max 1 (Text.digitsValue size)) (lines.length + 1) lines).map fun group =>
            command ++ group.flatMap (argumentsIn none none [])
        | none, none, none =>
          if words.isEmpty ∧ given.has 'r' then [] else [command ++ words]
      let calls := if calls.isEmpty ∧ given.has 'r' = false ∧ (given.value? 'I').isNone then
        [command] else calls
      let run (status : Nat) (call : List Text) : Action Nat := do
        if status = 124 ∨ status = 126 ∨ status = 127 then return status
        let child ← startChild do
          let _ ← Action.reply (.openFile "/dev/null".toList .read 0)
          let fault ← become invocation.environment call
          invocation.complain (call.headD [] ++ ": ".toList ++ fault.words)
          return if fault = .notFound then 127 else 126
        let ended ← awaitChild child Action.roundLimit
        return if ended = 0 then status
          else if ended = 126 ∨ ended = 127 then ended
          else if ended = 255 then 124
          else 123
      calls.foldlM run 0

end ScriptDesk.Tool

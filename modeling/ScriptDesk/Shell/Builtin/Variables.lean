import ScriptDesk.Shell.Lookup

/-!
# Commands for variables and parameters

The commands of the shell that set variables, parameters and options, and the one that reads
options out of parameters.
-/

namespace ScriptDesk.Shell.Builtin

open Run

/-- The name in front of the first equality sign, and what stands behind it. -/
def splitSetting (text : Text) : Text × Option Text :=
  match text.dropWhile (· ≠ '=') with
  | '=' :: value => (text.takeWhile (· ≠ '='), some value)
  | _ => (text, none)

/-- Breaks off unless a text is a name. -/
def demandName (name : Text) : Run Unit :=
  if isName name then give () else fail (name ++ ": bad variable name".toList)

/-- The variable that a text names in front of an equality sign. It breaks off if that is no
name. -/
def namedVariable (text : Text) : Run Text := do
  let (name, _) := splitSetting text
  demandName name
  return name

/-- Breaks off if a variable must not be set. -/
def demandFree (name : Text) : Run Unit := do
  if (← state).isReadOnly name then fail (name ++ ": is read only".toList)

/-- Sets a variable if there is a value for it, and marks it. -/
def markVariable (isExported isReadOnly : Bool) (text : Text) : Run Unit := do
  let (name, value) := splitSetting text
  let mark (binding : Binding) : Binding :=
    { binding with
      isExported := binding.isExported || isExported
      isReadOnly := binding.isReadOnly || isReadOnly }
  match value, (← state).binding? name with
  | none, some binding => change fun state => state.enter (mark binding)
  | none, none =>
    demandName name
    change fun state => state.enter (mark ⟨name, none, false, false⟩)
  | some value, _ =>
    demandName name
    assign name value false
    change fun state =>
      match state.binding? name with
      | some binding => state.enter (mark binding)
      | none => state

def mark (command : String) (isExported isReadOnly : Bool) (arguments : List Text) :
    Run Nat := do
  let (found, names) ← options [('p', false)] arguments
  if found.isEmpty = false ∨ names.isEmpty then
    let marked := (← state).bindings.filter fun binding =>
      if isReadOnly then binding.isReadOnly else binding.isExported
    output (shownBindings command.toList marked)
  else
    forEach names (markVariable isExported isReadOnly)
    return 0

/-- Lets a variable belong to the function at hand, and sets it if there is a value. A hyphen
stands for the options. -/
def makeLocal (isExported : Bool) (text : Text) : Run Unit := do
  if text = ['-'] then
    change fun state =>
      match state.kept with
      | [] => state
      | innermost :: others =>
        { state with kept := (.options state.options :: innermost) :: others }
  else
    let (name, value) := splitSetting text
    demandName name
    match value with
    | some value =>
      let before := (← state).binding? name
      if (before.map (·.isReadOnly)).getD false then
        fail (name ++ ": is read only".toList)
      change fun state => (state.keep name).assign name value isExported
    | none =>
      change fun state =>
        match state.binding? name with
        | some _ => state.keep name
        | none => (state.keep name).enter ⟨name, none, isExported, false⟩

/-- Lets variables belong to the function at hand. -/
def local_ (arguments : List Text) : Run Nat := do
  if (← state).kept.isEmpty then fail "not in a function".toList
  forEach arguments (makeLocal false)
  return 0

def unsetVariable (text : Text) : Run Unit := do
  let name ← namedVariable text
  demandFree name
  change fun state => (state.noticeChange name []).leaveOut name

/-- Unsets variables or functions. -/
def unset (arguments : List Text) : Run Nat := do
  let (found, names) ← options [('v', false), ('f', false)] arguments
  forEach names fun name =>
    if (found.getLast?.map Prod.fst) = some 'f' then
      change fun state =>
        { state with functions := state.functions.filter fun (known, _) => known ≠ name }
    else unsetVariable name
  return 0

def setParameters (parameters : List Text) : Run Unit :=
  change fun state =>
    { state with parameters := parameters, optionIndex := 1, optionOffset := none }

/-- The option of a letter, in the place of its rival if it has one. -/
def chooseLetter (letter : Char) (isOn : Bool) (state : State) : State :=
  let chosen := state.setOption letter isOn
  if isOn = false then chosen
  else if letter = 'V' then chosen.setOption 'E' false
  else if letter = 'E' then chosen.setOption 'V' false
  else chosen

def optionLetters : List Char :=
  (State.optionNames.map Prod.snd).filter fun letter => 32 < letter.toNat

/-- The options with their states, as a table or as commands. -/
def optionTable (isTable : Bool) (state : State) : Text :=
  let line (name : String) (letter : Char) : Text :=
    if isTable then
      name.toList ++ List.replicate (16 - name.length) ' ' ++
        (if state.has letter then "on\n" else "off\n").toList
    else
      (if state.has letter then "set -o " else "set +o ").toList ++ name.toList ++ ['\n']
  let table := State.optionNames.flatMap fun (name, letter) => line name letter
  if isTable then "Current option settings\n".toList ++ table else table

/-- Sets the option of a name, or shows all options if there is no name. -/
def setNamed (isOn : Bool) : Option Text → Run Unit
  | none => do
    let _ ← output (optionTable isOn (← state))
  | some name =>
    match State.optionNames.lookup (String.ofList name) with
    | some letter => change fun state => state.setOption letter isOn
    | none => fail ("Illegal option -o ".toList ++ name)

/-- Sets the options of letters. A letter may take a name out of the arguments, the rest of
which is given back. -/
def setLetters (isOn : Bool) : Text → List Text → Run (List Text)
  | [], arguments => give arguments
  | letter :: letters, arguments =>
    if letter = 'o' then do
      setNamed isOn arguments.head?
      setLetters isOn letters (arguments.drop 1)
    else if optionLetters.contains letter then do
      change (chooseLetter letter isOn)
      setLetters isOn letters arguments
    else fail ("Illegal option -".toList ++ [letter])

/-- Sets options and parameters. The bound is the number of arguments. -/
def setFrom : Nat → List Text → Run Unit
  | 0, _ => give ()
  | bound + 1, arguments =>
    match arguments with
    | [] => give ()
    | ['-'] :: rest => do
      change fun state => (state.setOption 'x' false).setOption 'v' false
      if rest.isEmpty = false then setParameters rest
    | ['-', '-'] :: rest => setParameters rest
    | ('-' :: letters) :: rest => do
      setFrom bound (← setLetters true letters rest)
    | ('+' :: letters) :: rest => do
      setFrom bound (← setLetters false letters rest)
    | parameters => setParameters parameters

/-- Sets options and parameters, or lists all variables. -/
def set_ (arguments : List Text) : Run Nat := do
  if arguments.isEmpty then
    let bound := (← state).bindings.filter fun binding => binding.value.isSome
    output (shownBindings [] bound)
  else
    setFrom (arguments.length + 1) arguments
    return 0

/-- Leaves out parameters at the front. -/
def shift (arguments : List Text) : Run Nat := do
  let count ← match arguments.head? with
    | some text => number text
    | none => pure 1
  if (← state).parameters.length < count then fail "can't shift that many".toList
  setParameters ((← state).parameters.drop count)
  return 0

/-- What has been read of an option: its letter, its value, the arguments that have been used
up, and how much of the last one. -/
structure OptionRead where
  letter : Char
  value : Option Text
  used : Nat
  offset : Option Nat
  complaint : Text

/-- Reads the next letter of options out of a text, given the arguments behind it and how many
have been used up. -/
def readOption (known : Text) (text : Text) (offset : Nat) (behind : List Text) (used : Nat) :
    OptionRead :=
  let isSilent := known.head? = some ':'
  match text with
  | [] => ⟨'?', none, used, none, []⟩
  | letter :: rest =>
    let offset? := some (offset + 1)
    match place known letter with
    | none =>
      if isSilent then ⟨'?', some [letter], used, offset?, []⟩
      else ⟨'?', none, used, offset?, "Illegal option -".toList ++ [letter, '\n']⟩
    | some false => ⟨letter, some [], used, offset?, []⟩
    | some true =>
      match rest, behind with
      | [], [] =>
        if isSilent then ⟨':', some [letter], used, offset?, []⟩
        else
          ⟨'?', none, used, offset?,
            "No arg for -".toList ++ letter :: " option\n".toList⟩
      | [], value :: _ => ⟨letter, some value, used + 1, none, []⟩
      | value, _ => ⟨letter, some value, used, none, []⟩
where
  /-- Whether a letter takes a value, if it is known. -/
  place : Text → Char → Option Bool
    | [], _ => none
    | candidate :: ':' :: rest, letter =>
      if candidate = letter then some true else place rest letter
    | candidate :: rest, letter => if candidate = letter then some false else place rest letter

/-- Reads the next option out of arguments, if there is one. -/
def nextOption (known : Text) (arguments : List Text) (index : Nat) (offset : Option Nat) :
    OptionRead ⊕ Nat :=
  let current := arguments.getD (index - 2) []
  let begun :=
    match offset with
    | some offset =>
      if 2 ≤ index ∧ offset < current.length then some (current.drop offset, offset) else none
    | none => none
  match begun with
  | some (text, offset) =>
    .inl (readOption known text offset (arguments.drop (index - 1)) (index - 1))
  | none =>
    match arguments.drop (index - 1) with
    | ('-' :: first :: letters) :: rest =>
      if first = '-' ∧ letters.isEmpty then .inr index
      else .inl (readOption known (first :: letters) 1 rest index)
    | _ => .inr (index - 1)

/-- Reads the next option out of the parameters or the arguments into a variable. -/
def getopts (arguments : List Text) : Run Nat := do
  let arguments ← withoutOptions arguments
  match arguments with
  | known :: name :: given =>
    let before ← state
    let values := if given.isEmpty then before.parameters else given
    let isBeyond := values.length + 1 < before.optionIndex
    let index := if isBeyond then 1 else before.optionIndex
    let offset := if isBeyond then none else before.optionOffset
    let finish (used : Nat) (offset : Option Nat) (letter : Char) (status : Nat) : Run Nat := do
      demandFree "OPTIND".toList
      change fun state =>
        { state.assign "OPTIND".toList (Text.decimal (used + 1)) false with
          optionIndex := used + 1, optionOffset := offset }
      assign (← namedVariable name) [letter] false
      return status
    match nextOption known values index offset with
    | .inr used => finish used none '?' 1
    | .inl read =>
      if read.complaint.isEmpty = false then
        let _ ← ask (.write 2 read.complaint)
      match read.value with
      | some value => assign "OPTARG".toList value false
      | none => unsetVariable "OPTARG".toList
      finish read.used read.offset read.letter 0
  | _ => fail "Usage: getopts optstring var [arg...]".toList

end ScriptDesk.Shell.Builtin

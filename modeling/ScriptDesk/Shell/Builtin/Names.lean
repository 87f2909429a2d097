import ScriptDesk.Shell.Lookup

/-!
# Commands about names

The commands of the shell that tell what a name stands for, that keep other names for
commands, and that show where programs have been found.
-/

namespace ScriptDesk.Shell.Builtin

open Run

/-- How many places there are in the order in which aliases are listed. -/
def aliasSlots : Nat := 39

/-- How many places there are in the order in which programs are listed. -/
def programSlots : Nat := 31

def shownAlias (name value : Text) : Text :=
  name ++ '=' :: singleQuoted value ++ ['\n']

/-- Writes what a name stands for: in words, or as a command. The directories in which
programs are searched for may be given. -/
def describe (inWords : Bool) (directories : Option Text) (name : Text) : Run Nat := do
  let before ← state
  let say (words short : Text) : Run Nat :=
    output ((if inWords then name ++ words else short) ++ ['\n'])
  if (Token.keyword? name).isSome then say " is a shell keyword".toList name
  else
    match before.aliases.lookup name with
    | some value =>
      if inWords then say (" is an alias for ".toList ++ value) []
      else output ("alias ".toList ++ shownAlias name value)
    | none =>
      match Callee.of before name false with
      | .function _ => say " is a shell function".toList name
      | .builtin =>
        say (if isSpecial name then " is a special shell builtin".toList
          else " is a shell builtin".toList) name
      | .program =>
        let tracked := before.found.any fun known => known.name = name
        let path ←
          if name.contains '/' then do
            let isThere := ((← ask .look).find name).toOption.isSome
            pure (if isThere then .ok name else .error Fault.notFound)
          else findProgram directories name
        match path with
        | .ok path =>
          let words := if tracked ∧ directories.isNone then " is a tracked alias for ".toList
            else " is ".toList
          say (words ++ path) path
        | .error _ =>
          let _ ← output (if inWords then name ++ ": not found\n".toList else [])
          return 127

/-- Writes in words what names stand for. -/
def type_ : List Text → Run Nat
  | [] => return 0
  | name :: rest => do
    let status ← describe true none name
    let others ← type_ rest
    return status ||| others

/-- Tells what a name stands for, if that is asked. -/
def command (arguments : List Text) : Run Nat := do
  let (found, names) ← options [('p', false), ('v', false), ('V', false)] arguments
  let isGiven (letter : Char) : Bool := found.any fun (known, _) => known = letter
  let directories := if isGiven 'p' then some Search.defaultPath else none
  match names with
  | name :: _ =>
    if isGiven 'v' ∨ isGiven 'V' then describe (isGiven 'V') directories name else return 0
  | [] => return 0

/-- Shows an alias, or enters one. -/
def aliasOne (argument : Text) : Run Nat := do
  let name := argument.takeWhile (· ≠ '=')
  let isSetting := name.isEmpty = false ∧ name.length < argument.length
  let before ← state
  if isSetting then
    let value := argument.drop (name.length + 1)
    change fun state => { state with
      aliases :=
        if (state.aliases.lookup name).isSome then
          state.aliases.map fun (known, old) => (known, if known = name then value else old)
        else state.aliases ++ [(name, value)] }
    return 0
  else
    match before.aliases.lookup argument with
    | some value => output (shownAlias argument value)
    | none =>
      complainPlainly ("alias: ".toList ++ argument ++ " not found".toList)
      return 1

/-- Enters aliases, or shows them. -/
def alias_ (arguments : List Text) : Run Nat := do
  if arguments.isEmpty then
    let all := listed aliasSlots Prod.fst (← state).aliases
    output (all.flatMap fun (name, value) => shownAlias name value)
  else each 0 arguments
where
  /-- Goes through arguments, and gives the last status that is not zero. -/
  each (status : Nat) : List Text → Run Nat
    | [] => return status
    | argument :: rest => do
      let next ← aliasOne argument
      each (if next = 0 then status else next) rest

/-- Removes aliases. -/
def unalias (arguments : List Text) : Run Nat := do
  let (found, names) ← options [('a', false)] arguments
  if found.isEmpty = false then
    change fun state => { state with aliases := [] }
    return 0
  else each 0 names
where
  /-- Goes through names, and tells whether all were known. -/
  each (status : Nat) : List Text → Run Nat
    | [] => return status
    | name :: rest => do
      if ((← state).aliases.lookup name).isSome then
        change fun state =>
          { state with aliases := state.aliases.filter fun (known, _) => known ≠ name }
        each status rest
      else
        complainPlainly ("unalias: ".toList ++ name ++ " not found".toList)
        each 1 rest

/-- Shows where programs have been found, or searches for them. -/
def hash (arguments : List Text) : Run Nat := do
  let (found, names) ← options [('r', false)] arguments
  if found.isEmpty = false then
    change fun state => { state with found := [] }
    return 0
  else if names.isEmpty then
    let all := listed programSlots Found.name (← state).found
    output (all.flatMap fun known => known.path ++ (if known.isOld then "*\n" else "\n").toList)
  else each 0 names
where
  /-- Searches for programs, and tells whether all have been found. -/
  each (status : Nat) : List Text → Run Nat
    | [] => return status
    | name :: rest => do
      match Callee.of (← state) name false with
      | .program =>
        match ← findProgram none name with
        | .ok _ => each status rest
        | .error fault =>
          complain (name ++ ": ".toList ++ startingWords fault)
          each 1 rest
      | _ => each status rest

end ScriptDesk.Shell.Builtin

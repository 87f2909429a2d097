import ScriptDesk.Shell.Builtin

/-!
# Carrying out commands

What the shell does for every form of command. Commands within a command are carried out by
the interpreter that is given; at the end, the two are put together.
-/

namespace ScriptDesk.Shell

namespace Evaluation

open Run

/-- How a loop goes on behind a round. -/
inductive Round where
  | goesOn
  /-- The next round begins at once. -/
  | again
  | ends
deriving DecidableEq

/-- How a loop goes on, given what is skipped. -/
def Round.of (skip : Skip) : Round × Skip :=
  match skip with
  | .nothing => (.goesOn, .nothing)
  | .loops count => (.ends, if count ≤ 1 then .nothing else .loops (count - 1))
  | .round count => if count ≤ 1 then (.again, .nothing) else (.ends, .round (count - 1))
  | .function given => (.ends, .function given)

/-- Learns how a loop goes on. -/
def round : Run Round :=
  changeWith fun state =>
    let (round, skip) := Round.of state.skip
    ({ state with skip := skip }, round)

/-- Notes the line of a command. -/
def atLine (line : Nat) : Run Unit :=
  change fun state => { state with line := line }

/-- Does something within a loop. -/
def inLoop (run : Run Nat) : Run Nat :=
  within State.loopDepth (fun depth state => { state with loopDepth := depth })
    (fun state => { state with loopDepth := state.loopDepth + 1 }) run

/-- Carries out the rounds of a loop with a test, given the status of the last round. -/
def loopFrom (interpreter : Interpreter) (isTested while_ : Bool) (test body : Option Command) :
    Nat → Nat → Run Nat
  | 0, status => return status
  | bound + 1, status => do
    let found ← interpreter.evaluate .tested test
    match ← round with
    | .again => loopFrom interpreter isTested while_ test body bound status
    | .ends =>
      match (← state).skip with
      | .function _ => return found
      | _ => return status
    | .goesOn =>
      if (found = 0) ≠ (while_ = true) then return status
      let status ← interpreter.evaluate ⟨false, isTested⟩ body
      if (← round) = .ends then return status
      loopFrom interpreter isTested while_ test body bound status

/-- Carries out the rounds of a loop over values, given the status of the last round. -/
def eachFrom (interpreter : Interpreter) (isTested : Bool) (name : Text)
    (body : Option Command) : Nat → List Text → Run Nat
  | status, [] => return status
  | _, value :: rest => do
    assign name value false
    let status ← interpreter.evaluate ⟨false, isTested⟩ body
    if (← round) = .ends then return status
    eachFrom interpreter isTested name body status rest

def matchesAny (worker : Worker) (text : Text) : List Word → Run Bool
  | [] => return false
  | word :: rest => do
    let items ← worker.items .text word
    if matchesAll (readPattern (Item.field items)) text then return true
    matchesAny worker text rest

/-- Carries out the first case that matches a text. -/
def caseFor (interpreter : Interpreter) (flags : Flags) (text : Text) :
    List (List Word × Option Command) → Run Nat
  | [] => return 0
  | (patterns, body) :: rest => do
    if ← matchesAny interpreter.worker text patterns then
      if body.isSome then interpreter.evaluate flags body else return 0
    else caseFor interpreter flags text rest

/-- Makes redirections for the rest of the process. -/
def redirectForGood (worker : Worker) (prepared : List Prepared) : Run Unit := do
  let (_, isDone) ← Redirecting.applyAll worker false prepared []
  if isDone = false then escape .failure

def redirected (interpreter : Interpreter) (flags : Flags) (command : Option Command)
    (redirections : List Redirection) : Run Nat := do
  let worker := interpreter.worker
  let prepared ← Redirecting.prepare worker redirections
  let (saved, isDone) ← Redirecting.applyAll worker true prepared []
  let result ← attempt (
    if isDone then interpreter.evaluate { flags with exits := false } command else give 2)
  Redirecting.restore saved
  settle result

/-- Whether some command is kept for a signal or the end of the shell. -/
def hasTraps : Run Bool := do
  return (← state).traps.any fun (_, action) => !action.isEmpty

/-- Carries out a command in a shell of its own, with descriptors redirected. -/
def subshell (interpreter : Interpreter) (flags : Flags) (isBackground : Bool)
    (command : Option Command) (redirections : List Redirection) : Run Nat := do
  let worker := interpreter.worker
  let prepared ← Redirecting.prepare worker redirections
  let inside (flags : Flags) : Run Unit := do
    redirectForGood worker prepared
    let _ ← interpreter.evaluate { flags with exits := true } command
  if isBackground then
    let slot ← beginJob
    let _ ← fork worker.ending .background (some slot) (inside .plain)
    return 0
  else if flags.exits = true ∧ (← hasTraps) = false then
    inside flags
    escape .finish
  else
    let slot ← beginJob
    let _ ← fork worker.ending .foreground (some slot) (inside flags)
    finishJob slot

/-- Starts the commands of a pipeline, given the descriptor from which the first one reads. -/
def startPiped (interpreter : Interpreter) (isTested : Bool) (relation : Relation)
    (slot : Nat) : Option Nat → List Command → Run Unit
  | _, [] => give ()
  | source, command :: rest => do
    let ends ← if rest.isEmpty then pure none else some <$> ask .pipe
    let _ ← fork interpreter.worker.ending relation (some slot) do
      match ends with
      | some (next, _) => ask (.close next)
      | none => give ()
      match source with
      | some source =>
        if source ≠ 0 then
          let _ ← ask (.duplicate source 0)
          ask (.close source)
      | none => give ()
      match ends with
      | some (_, target) =>
        if target ≠ 1 then
          let _ ← ask (.duplicate target 1)
          ask (.close target)
      | none => give ()
      let _ ← interpreter.evaluate ⟨true, isTested⟩ (some command)
    match source with
    | some source => ask (.close source)
    | none => give ()
    match ends with
    | some (_, target) => ask (.close target)
    | none => give ()
    startPiped interpreter isTested relation slot (ends.map Prod.fst) rest

def pipeline (interpreter : Interpreter) (flags : Flags) (commands : List Command)
    (isBackground : Bool) : Run Nat := do
  let slot ← beginJob
  let relation : Relation := if isBackground then .background else .foreground
  startPiped interpreter flags.isTested relation slot none commands
  if isBackground then return 0 else finishJob slot

/-- A call of a command: its words, and how it is carried out. -/
structure Call where
  /-- The words in front of the name. -/
  passed : List Text
  /-- The name with its arguments. -/
  words : List Text
  callee : Callee
  /-- An error of the command ends the shell. -/
  isSpecial : Option Bool
  /-- What is assigned in front of the command is forgotten behind it. -/
  isLocal : Bool
  /-- Arguments that are assignments are not cut into fields. -/
  takesAssignments : Bool
  skipsFunctions : Bool
  /-- The program is searched for where every system has its programs. -/
  searchesDefaults : Bool

namespace Call

def none : Call := ⟨[], [], .builtin, Option.none, false, false, false, false⟩

def name (call : Call) : Text :=
  call.words.headD []

def arguments (call : Call) : List Text :=
  call.words.drop 1

end Call

/-- Works out words until there is a given number of them. -/
def workOut (worker : Worker) (count : Nat) : List Word → List Text →
    Run (List Text × List Word)
  | [], words => return (words, [])
  | word :: rest, words => do
    if count ≤ words.length then return (words, word :: rest)
    workOut worker count rest (words ++ (← worker.fields word))

/-- The place of the command that `command` is to carry out, behind its options, with a note
on whether the command is searched for where every system has its programs. -/
def commandPlace (worker : Worker) : Nat → Nat → Bool → List Word → List Text →
    Run (Option (Nat × Bool) × List Text × List Word)
  | 0, _, _, left, words => return (none, words, left)
  | bound + 1, place, searchesDefaults, left, words => do
    let (words, left) ← workOut worker (place + 2) left words
    match words[place + 1]? with
    | none => return (none, words, left)
    | some ['-', '-'] =>
      let (words, left) ← workOut worker (place + 3) left words
      return (if words.length < place + 3 then none else some (place + 2, searchesDefaults),
        words, left)
    | some ('-' :: letter :: letters) =>
      if (letter :: letters).all (· = 'p') then
        commandPlace worker bound (place + 1) true left words
      else return (none, words, left)
    | some _ => return (some (place + 1, searchesDefaults), words, left)

/-- Finds out what a call stands for. Words that have not been worked out are given back. -/
def resolve (worker : Worker) : Nat → Call → List Word → Run (Call × List Word)
  | 0, call, left => return (call, left)
  | bound + 1, call, left => do
    match Callee.of (← state) call.name call.skipsFunctions with
    | .builtin =>
      let isSpecial := call.isSpecial.getD (isSpecial call.name)
      let known := { call with
        callee := .builtin
        isSpecial := some isSpecial
        isLocal := call.isSpecial.isSome || !isSpecial
        takesAssignments :=
          ["export", "readonly", "local", "alias"].contains (String.ofList call.name) }
      if call.name ≠ "command".toList then return (known, left)
      else
        let (place, words, left) ← commandPlace worker roundLimit 0 false left known.words
        match place with
        | none => return ({ known with words := words }, left)
        | some (place, searchesDefaults) =>
          resolve worker bound
            { known with
              passed := known.passed ++ words.take place
              words := words.drop place
              skipsFunctions := true
              searchesDefaults := searchesDefaults }
            left
    | other => return ({ call with callee := other, isLocal := true }, left)

def argumentTexts (worker : Worker) (call : Call) (word : Word) : Run (List Text) := do
  if call.takesAssignments ∧ (assignment? word).isSome then
    return [← worker.assignmentText word]
  else worker.fields word

/-- Works out arguments. Those that have been worked out stand in reverse order. -/
def argumentsFrom (worker : Worker) (call : Call) : List Word → List (List Text) →
    Run (List Text)
  | [], texts => return texts.reverse.flatten
  | word :: rest, texts => do
    argumentsFrom worker call rest ((← argumentTexts worker call word) :: texts)

/-- Works out the words of a command, and what it calls. -/
def callOf (worker : Worker) (words : List Word) : Run Call := do
  let (first, left) ← workOut worker 1 words []
  if first.isEmpty then return .none
  let (call, left) ← resolve worker (words.length + first.length + 1)
    { Call.none with words := first } left
  return { call with words := call.words ++ (← argumentsFrom worker call left []) }

/-- Makes assignments in front of a command, and gives them as they are traced. -/
def assignAll (worker : Worker) (isLocal isExported : Bool) : List Word → Run (List Text)
  | [] => return []
  | word :: rest => do
    let text ← worker.assignmentText word
    let (name, value) := Builtin.splitSetting text
    if isLocal then Builtin.makeLocal true text
    else assign name (value.getD []) isExported
    return text :: (← assignAll worker isLocal isExported rest)

/-- Traces the words of a command, if that is wanted. Traces go to where errors were written
before redirections. -/
def trace (worker : Worker) (saved : List Saved) (texts : List Text) : Run Unit := do
  let before ← state
  if before.has 'x' ∧ before.isTracing = false then
    change fun state => { state with isTracing := true }
    let heading ← worker.text .document (Script.documentOf before (before.valueOf "PS4"))
    change fun state => { state with isTracing := false }
    let copy := (saved.find? fun one => one.descriptor = 2).bind (·.copy)
    let line := heading ++ Text.joinWith [' '] texts ++ ['\n']
    let _ ← ask (.write (copy.getD 2) line)

/-- Carries out a command of the shell. Its errors end the shell only where it is special. -/
def callBuiltin (interpreter : Interpreter) (flags : Flags) (call : Call) : Run Nat := do
  let before ← state
  change fun state => { state with commandName := some call.name }
  let result ← attempt (Builtin.run interpreter flags call.name call.arguments)
  let isWritten ← passOn
  if result.isOk ∧ isWritten = false then complain (call.name ++ ": I/O error".toList)
  change fun state => { state with commandName := before.commandName, held := [] }
  match result with
  | .ok status =>
    let status := if isWritten then status else status ||| 1
    change fun state => { state with status := status }
    return status
  | .error .failure =>
    if call.isSpecial = some true then escape .failure
    change fun state => state.restoreTo before.kept.length state.kept.length
    return (← state).status
  | .error reason => escape reason

/-- How many functions may be called one within the other. -/
def functionLimit : Nat := 1000

/-- What belongs to a function while it is carried out. -/
structure Frame where
  parameters : List Text
  optionIndex : Nat
  optionOffset : Option Nat
  loopDepth : Nat
  functionDepth : Nat

namespace Frame

def of (state : State) : Frame :=
  ⟨state.parameters, state.optionIndex, state.optionOffset, state.loopDepth,
    state.functionDepth⟩

/-- Puts a frame in place. -/
def put (frame : Frame) (state : State) : State :=
  { state with
    parameters := frame.parameters
    optionIndex := frame.optionIndex
    optionOffset := frame.optionOffset
    loopDepth := frame.loopDepth
    functionDepth := frame.functionDepth }

end Frame

def callFunction (interpreter : Interpreter) (flags : Flags) (body : Option Command)
    (arguments : List Text) : Run Nat := do
  let depth := (← state).functionDepth
  if functionLimit ≤ depth then
    fail "Maximum function recursion depth (1000) reached".toList
  let _ ← within Frame.of Frame.put (Frame.put ⟨arguments, 1, none, 0, depth + 1⟩)
    (interpreter.evaluate ⟨false, flags.isTested⟩ body)
  change fun state => { state with skip := state.skip.afterFunction }
  return (← state).status

/-- Runs a program, in place of the shell if nothing else is left to do. -/
def callProgram (interpreter : Interpreter) (flags : Flags) (call : Call) : Run Nat := do
  let directories := if call.searchesDefaults then some Search.defaultPath else none
  match ← findProgram directories call.name with
  | .error fault =>
    complain (call.name ++ ": ".toList ++ startingWords fault)
    return 127
  | .ok path =>
    if flags.exits = true ∧ (← hasTraps) = false then
      becomeProgram path call.words
    else
      let slot ← beginJob
      let _ ← fork interpreter.worker.ending .foreground (some slot) do
        let _ ← becomeProgram path call.words
      finishJob slot

/-- Learns of jobs that have ended, if some have not. -/
def collectEnded : Run Unit := do
  if (← state).jobs.any fun job => !job.isOver then collect roundLimit

def perform (interpreter : Interpreter) (flags : Flags) (call : Call) : Run Nat := do
  match call.callee with
  | .program => callProgram interpreter flags call
  | .function body =>
    let status ← callFunction interpreter flags body call.arguments
    collectEnded
    return status
  | .builtin =>
    let status ←
      if call.words.isEmpty then pure (← state).outputStatus
      else callBuiltin interpreter flags call
    collectEnded
    return status

/-- Carries out a simple command. -/
def simple (interpreter : Interpreter) (flags : Flags) (assignments words : List Word)
    (redirections : List Redirection) : Run Nat := do
  let worker := interpreter.worker
  change fun state => { state with outputStatus := 0 }
  let call ← callOf worker words
  let isExec := call.callee matches .builtin && call.name = "exec".toList
  if call.isLocal then change fun state => { state with kept := [] :: state.kept }
  let prepared ← Redirecting.prepare worker redirections
  let (saved, isDone) ← Redirecting.applyAll worker true prepared []
  let result ← attempt (do
    if isDone then
      let isExported := isExec && decide (1 < call.words.length)
      let settings ← assignAll worker call.isLocal isExported assignments
      trace worker saved (settings ++ call.passed ++ call.words)
      perform interpreter flags call
    else
      change fun state => { state with status := 2 }
      if call.isSpecial = some true then escape .failure
      return 2)
  match result with
  | .ok status =>
    if isExec ∧ isDone then Redirecting.forget saved else Redirecting.restore saved
    if call.isLocal then change State.restore
    return status
  | .error reason =>
    Redirecting.restore saved
    escape reason

/-- Carries out a command, and gives its status. There is none where the rest is skipped. -/
def node (interpreter : Interpreter) (flags : Flags) : Command → Run (Option Nat)
  | .simple line assignments words redirections => do
    ask .pause
    atLine line
    some <$> simple interpreter flags assignments words redirections
  | .redirected line command redirections => do
    atLine line
    some <$> redirected interpreter flags command redirections
  | .pipeline commands isBackground =>
    some <$> pipeline interpreter flags commands isBackground
  | .background line command redirections => do
    atLine line
    some <$> subshell interpreter flags true command redirections
  | .subshell line command redirections => do
    atLine line
    some <$> subshell interpreter flags false command redirections
  | .negated command => do
    let status ← interpreter.evaluate .tested (some command)
    if (← state).skip = .nothing then return some (if status = 0 then 1 else 0)
    else return some status
  | .both first second => do
    let status ← interpreter.evaluate .tested (some first)
    if status ≠ 0 ∨ (← state).skip ≠ .nothing then return none
    some <$> interpreter.evaluate flags (some second)
  | .either first second => do
    let status ← interpreter.evaluate .tested (some first)
    if status = 0 ∨ (← state).skip ≠ .nothing then return none
    some <$> interpreter.evaluate flags (some second)
  | .sequence first second => do
    let _ ← interpreter.evaluate ⟨false, flags.isTested⟩ (some first)
    if (← state).skip ≠ .nothing then return none
    some <$> interpreter.evaluate flags (some second)
  | .conditional test yes no => do
    let status ← interpreter.evaluate .tested test
    if (← state).skip ≠ .nothing then return none
    if status = 0 then some <$> interpreter.evaluate flags yes
    else if no.isSome then some <$> interpreter.evaluate flags no
    else return some 0
  | .loop while_ test body =>
    some <$> inLoop (loopFrom interpreter flags.isTested while_ test body roundLimit 0)
  | .each line name words body => do
    atLine line
    let values ← interpreter.worker.allFields words []
    some <$> inLoop (eachFrom interpreter flags.isTested name body 0 values)
  | .selection line word cases => do
    ask .pause
    atLine line
    let text ← interpreter.worker.text .text word
    some <$> caseFor interpreter flags text cases
  | .definition _ name body => do
    ask .pause
    change fun state => { state with
      functions := (name, body) :: state.functions.filter fun (known, _) => known ≠ name }
    return some 0

/-- Whether the shell may end because of the status of a command. -/
def isChecked : Command → Bool
  | .simple _ _ _ _ => true
  | .pipeline _ _ => true
  | .background _ _ _ => true
  | .subshell _ _ _ => true
  | _ => false

/-- Carries out a command between the commands that are kept for signals. -/
def tree (interpreter : Interpreter) (flags : Flags) (command : Option Command) : Run Nat := do
  let fails ←
    match command with
    | some command =>
      if (← state).has 'n' then pure false
      else
        runTraps interpreter.evaluate
        match ← node interpreter flags command with
        | some status =>
          change fun state => { state with status := status }
          pure (isChecked command && decide (status ≠ 0))
        | none => pure false
    | none => pure false
  runTraps interpreter.evaluate
  let state ← state
  if flags.exits ∨ (fails = true ∧ flags.isTested = false ∧ state.has 'e') then
    escape .finish
  return state.status

end Evaluation

/-- Carries out commands. The bound is how deep they may be nested. -/
def evaluate : Nat → Evaluator
  | 0 => fun _ _ => Run.give 0
  | bound + 1 => fun flags command =>
    Evaluation.tree ⟨evaluate bound⟩ flags command

/-- How deep commands may be nested. -/
def nestingLimit : Nat := 1000000000

def interpreter : Interpreter :=
  ⟨evaluate nestingLimit⟩

end ScriptDesk.Shell

import ScriptDesk.Shell.State
import ScriptDesk.System.Request

/-!
# What a shell does

A shell works on its state, asks the system for what it needs, and may be broken off: by an
error, or because it is to end. How programs are started and how commands are carried out
is given from outside, so that commands can be nested.
-/

namespace ScriptDesk.Shell

/-- Why a command is broken off. -/
inductive Escape where
  /-- An error, after which the shell ends unless the command is one of some of its own. -/
  | failure
  /-- The shell has been asked to end. -/
  | leave
  /-- There is nothing left to do. -/
  | finish
deriving DecidableEq

/-- What a shell does until it comes to a value or is broken off. -/
def Run (Value : Type) : Type :=
  State → Action (Except Escape Value × State)

namespace Run

/-- Does nothing. -/
def give {Value : Type} (value : Value) : Run Value := fun state =>
  .give (.ok value, state)

/-- Does one thing, and then another one with its value. -/
def andThen {First Second : Type} (run : Run First) (next : First → Run Second) : Run Second :=
  fun state => (run state).andThen fun (result, state) =>
    match result with
    | .ok value => next value state
    | .error escape => .give (.error escape, state)

instance : Monad Run where
  pure := give
  bind := andThen

/-- Breaks off. -/
def escape {Value : Type} (reason : Escape) : Run Value := fun state =>
  .give (.error reason, state)

/-- Does something, and tells whether it was broken off. -/
def attempt {Value : Type} (run : Run Value) : Run (Except Escape Value) := fun state =>
  (run state).andThen fun (result, state) => .give (.ok result, state)

/-- Goes on with what has been attempted. -/
def settle {Value : Type} (result : Except Escape Value) : Run Value := fun state =>
  .give (result, state)

def state : Run State := fun state =>
  .give (.ok state, state)

def change (function : State → State) : Run Unit := fun state =>
  .give (.ok (), function state)

def changeWith {Value : Type} (function : State → State × Value) : Run Value := fun state =>
  let (changed, value) := function state
  .give (.ok value, changed)

/-- Asks the system. -/
def ask (request : Request) : Run request.Reply := fun state =>
  .ask request fun reply => .give (.ok reply, state)

/-- Ends the process. -/
def exit {Value : Type} (status : Nat) : Run Value := fun _ =>
  .exit status

/-- Does something outside the shell. -/
def lift {Value : Type} (action : Action Value) : Run Value := fun state =>
  action.andThen fun value => .give (.ok value, state)

def forEach {Value : Type} (values : List Value) (run : Value → Run Unit) : Run Unit :=
  match values with
  | [] => give ()
  | value :: rest => (run value).andThen fun _ => forEach rest run

/-- Writes an error message as it stands. -/
def complainPlainly (text : Text) : Run Unit :=
  (ask (.write 2 (text ++ ['\n']))).andThen fun _ => give ()

/-- What error messages begin with: the name of the shell, the line, and the command of the
shell that is carried out. -/
def heading (state : State) : Text :=
  state.name ++ ": ".toList ++ Text.decimal state.line ++ ": ".toList ++
    match state.commandName with
    | some name => name ++ ": ".toList
    | none => []

/-- Writes an error message. -/
def complain (text : Text) : Run Unit := do
  complainPlainly (heading (← state) ++ text)

/-- Writes an error message, and breaks off. -/
def fail {Value : Type} (text : Text) : Run Value := do
  complain text
  change fun state => { state with status := 2 }
  escape .failure

/-- Writes what a command of the shell gives, to be passed on when the command ends. -/
def output (text : Text) : Run Nat := do
  change fun state => { state with held := state.held ++ text }
  return 0

/-- Passes on what a command of the shell has written, and tells whether that was possible. -/
def passOn : Run Bool := do
  let text := (← state).held
  if text.isEmpty then return true
  match ← ask (.write 1 text) with
  | .ok _ =>
    change fun state => { state with held := [] }
    return true
  | .error _ => return false

/-- Sets a variable, unless it must not be set. -/
def assign (name value : Text) (isExported : Bool) : Run Unit := do
  if (← state).isReadOnly name then fail (name ++ ": is read only".toList)
  change fun state => state.assign name value isExported

/-- Something that the shell does with a changed state, which is then as it was in that
respect. -/
def within {Kept Value : Type} (get : State → Kept) (put : Kept → State → State)
    (inner : State → State) (run : Run Value) : Run Value := do
  let before := get (← state)
  change inner
  let result ← attempt run
  change (put before)
  settle result

end Run

/-- How a command is to be carried out. -/
structure Flags where
  /-- The shell ends with the command. -/
  exits : Bool
  /-- Something depends on how the command ends. -/
  isTested : Bool

namespace Flags

/-- Nothing is special. -/
def plain : Flags := ⟨false, false⟩

/-- Something depends on how the command ends. -/
def tested : Flags := ⟨false, true⟩

end Flags

/-- What is needed to carry out commands. -/
structure Interpreter where
  /-- Carries out a command, and gives its status. -/
  evaluate : Flags → Option Command → Run Nat

/-- How many rounds there may be where nothing else limits them. -/
def roundLimit : Nat := Action.roundLimit

end ScriptDesk.Shell

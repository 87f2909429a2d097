import ScriptDesk.Outcome

/-!
# Scopes of a launch

A launch keeps what it has acquired in local variables: the script file, the process of the
interpreter, and the guard of the process group that the interpreter leads. A scope that is
left drops the locals that it still holds, the latest first. It is left by its end, by an
error that is passed on, and at a wait, if whoever waits for the launch drops it there.
-/

namespace ScriptDesk.Launch

/-- The greatest number of a process. -/
def processLimit : Nat := 2147483647

/-- The number of a process. -/
structure ProcessId where
  number : Nat
  positive : 0 < number
  within : number ≤ processLimit
deriving DecidableEq

/-- The number of the process that is started at a turn. Numbers are given out again after the
greatest one. -/
def ProcessId.ofTurn (turn : Nat) : ProcessId where
  number := turn % processLimit + 1
  positive := Nat.succ_pos _
  within := Nat.succ_le_of_lt (Nat.mod_lt _ (by decide))

/-- Something that a launch does. -/
inductive Effect where
  | fileCreated
  | fileRemoved
  | groupStarted (group : Nat)
  | groupKilled (group : Nat)
  | childKilled (process : Nat)
deriving DecidableEq, Repr

/-- What stops a launch: an error, or that nobody waits for it any longer. -/
inductive Stop where
  | fails (error : LaunchError)
  | dropped
deriving DecidableEq

def Stop.outcome : Stop → Option Outcome
  | .fails error => some (.error error)
  | .dropped => none

/-- A process that has been started, and whether its end has been waited for. -/
structure Child where
  id : ProcessId
  reaped : Bool

/-- The number of a process, as long as its end has not been waited for. -/
def Child.number? (child : Child) : Option Nat :=
  if child.reaped then none else some child.id.number

/-- The guard of a process group. Without a group there is nothing to be killed. -/
structure GroupGuard where
  group : Option Nat

namespace GroupGuard

def leading (child : Child) : GroupGuard :=
  ⟨child.number?.filter (· ≤ processLimit)⟩

def disarm (guard : GroupGuard) : GroupGuard :=
  { guard with group := none }

end GroupGuard

/-- The value of a local variable that does something when it is dropped. -/
inductive Local where
  | file
  | process (child : Child)
  | group (guard : GroupGuard)

namespace Local

def drop : Local → List Effect
  | .file => [.fileRemoved]
  | .process child => child.number?.toList.map .childKilled
  | .group guard => guard.group.toList.map .groupKilled

def isFile : Local → Bool
  | .file => true
  | _ => false

/-- The local after the end of the process has been waited for. -/
def reap : Local → Local
  | .process child => .process { child with reaped := true }
  | other => other

def disarm : Local → Local
  | .group guard => .group guard.disarm
  | other => other

end Local

/-- The locals that the present scope holds, the latest first, and what has been done. -/
structure World where
  held : List Local
  effects : List Effect

/-- The world after a scope has been left, in which there were other locals before. -/
def World.leave (inner : World) (outer : List Local) : World where
  held := outer
  effects := inner.effects ++ inner.held.flatMap Local.drop

/-- Code that can be stopped. -/
abbrev Code := EStateM Stop World

namespace Code

variable {Value Fault : Type}

/-- Does something. -/
def perform (effect : Effect) : Code Unit :=
  modify fun world => { world with effects := world.effects ++ [effect] }

def hold (value : Local) : Code Unit :=
  modify fun world => { world with held := value :: world.held }

def change (update : Local → Local) : Code Unit :=
  modify fun world => { world with held := world.held.map update }

/-- Drops the script file before the end of its scope. -/
def dropFile : Code Unit :=
  modify fun world =>
    { held := world.held.filter fun value => !value.isFile
      effects := world.effects ++ (world.held.filter Local.isFile).flatMap Local.drop }

/-- Hands the script file over to whoever has called, so that this scope does not drop it. -/
def handOverFile : Code Local :=
  modifyGet fun world => (.file, { world with held := world.held.filter fun value => !value.isFile })

/-- Runs code in a scope of its own, which drops what it still holds on every way out. -/
def scope (body : Code Value) : Code Value := fun world =>
  match body.run { world with held := [] } with
  | .ok value inner => .ok value (inner.leave world.held)
  | .error stop inner => .error stop (inner.leave world.held)

/-- Passes on the result of a step, or its fault as an error. -/
def attempt (error : Fault → LaunchError) : Except Fault Value → Code Value
  | .ok value => pure value
  | .error fault => throw (.fails (error fault))

/-- Waits for a result and passes it on. If it never comes, whoever waits for the code drops it
here. -/
def await (error : Fault → LaunchError) : Option (Except Fault Value) → Code Value
  | some result => attempt error result
  | none => throw .dropped

section Run

variable (world : World)

@[simp] theorem run_perform (effect : Effect) :
    (perform effect).run world = .ok () { world with effects := world.effects ++ [effect] } :=
  rfl

@[simp] theorem run_hold (value : Local) :
    (hold value).run world = .ok () { world with held := value :: world.held } :=
  rfl

@[simp] theorem run_change (update : Local → Local) :
    (change update).run world = .ok () { world with held := world.held.map update } :=
  rfl

@[simp] theorem run_handOverFile :
    handOverFile.run world =
      .ok .file { world with held := world.held.filter fun value => !value.isFile } :=
  rfl

@[simp] theorem run_scope (body : Code Value) :
    (scope body).run world =
      match body.run { world with held := [] } with
      | .ok value inner => .ok value (inner.leave world.held)
      | .error stop inner => .error stop (inner.leave world.held) :=
  rfl

end Run

end Code

end ScriptDesk.Launch

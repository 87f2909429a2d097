import ScriptDesk.System.Answer
import ScriptDesk.System.Execution

/-!
# Schedules

Processes go on one after the other: the first one as long as its requests can be answered
and its turn is not over, and then the next one. A process that has just been started comes
last. Time passes where processes let it pass, and where they start others, read or write;
when no process can go on, it becomes as late as the next process wants to wake up.
-/

namespace ScriptDesk.System

/-- How many microseconds a pause takes. -/
def pauseTime : Nat := 2

/-- How many microseconds it takes to double a process. -/
def forkTime : Nat := 100

/-- How many microseconds a program takes to begin. -/
def programTime : Nat := 400

/-- How many octets are read or written in a microsecond. -/
def octetRate : Nat := 200

/-- How many microseconds a process may go on while others could. -/
def turnTime : Nat := 1000

/-- How many streams there may be before those are left out that nobody uses. -/
def streamLimit : Nat := 64

/-- The first process in the place of the one at work. -/
def withFirst (system : System) (process : Process) : System :=
  { system with processes := process :: system.processes.drop 1 }

/-- Lets the next process be at work. -/
def rotate (system : System) : System :=
  match system.processes with
  | [] => system
  | process :: rest =>
    { system with processes := rest ++ [process], turnEnd := system.now + turnTime }

/-- Lets time pass. -/
def spend (microseconds : Nat) (system : System) : System :=
  { system with now := system.now + microseconds }

/-- When a process wants to wake up, if it sleeps. -/
def wakeTime? (process : Process) : Option Nat :=
  match process.action with
  | .ask (.sleepUntil moment) _ => if process.stopped then none else some moment
  | _ => none

/-- When the next process wants to wake up, if one sleeps. -/
def nextWake? (system : System) : Option Nat :=
  (system.processes.filterMap wakeTime?).foldl
    (fun earliest moment => some (match earliest with
      | some earlier => min earlier moment
      | none => moment))
    none

/-- Lets the time of a pause pass. The next process is at work if it is time for it. -/
def pause (system : System) : System :=
  let passed := system.spend pauseTime
  let isDue := system.processes.any fun process => (wakeTime? process).any (· ≤ passed.now)
  if isDue ∨ passed.turnEnd ≤ passed.now then passed.rotate else passed

def forkFirst (system : System) (process : Process) (goOn : Nat → Action Nat) : System :=
  let number := system.nextProcess
  let child : Process :=
    { process with
      number := number, parent := process.number, action := goOn 0, noted := [], doom := none }
  { system with
    processes := { process with action := goOn number } :: system.processes.drop 1 ++ [child]
    nextProcess := number + 1
    now := system.now + forkTime }

def writeFirst (system : System) (process : Process) (descriptor : Nat) (text : Text)
    (goOn : Except Fault Unit → Action Nat) : Option System :=
  match system.writeTo process descriptor text with
  | .done system =>
    some ((system.withFirst { process with action := goOn (.ok ()) }).spend
      (text.length / octetRate))
  | .refused fault => some (system.withFirst { process with action := goOn (.error fault) })
  | .partly system count =>
    if count = 0 then none
    else
      let rest := Action.ask (.write descriptor (text.drop count)) goOn
      some ((system.withFirst { process with action := rest }).spend (count / octetRate))
  | .unread =>
    if SignalEffect.of process pipeSignal = .ends then
      some (system.bury process (.signalled pipeSignal))
    else
      let told := process.receive pipeSignal
      some (system.withFirst { told with action := goOn (.error brokenPipe) })

def signalFirst (system : System) (process : Process) (addressee : Addressee) (signal : Nat)
    (goOn : Bool → Action Nat) : System :=
  let (sent, found) := system.send process addressee signal
  match sent.processes with
  | [] => sent
  | first :: _ => sent.withFirst { first with action := goOn found }

def closeFirst (system : System) (process : Process) (descriptor : Nat)
    (goOn : Unit → Action Nat) : System :=
  let closed := system.withFirst { process.forget descriptor with action := goOn () }
  if streamLimit < closed.streams.length then closed.tidy else closed

/-- What the programs of a system do, by their names, given their arguments, the variables that
they see, and the signals that are ignored. -/
abbrev Software := Text → List Text → List (Text × Text) → List Nat → Action Nat

/-- Lets a program take the place of the first process, if that is possible. It takes a while
to begin, in which others go on. -/
def startFirst (software : Software) (system : System) (process : Process) (path : Text)
    (arguments : List Text) (environment : List (Text × Text)) (goOn : Fault → Action Nat) :
    System :=
  match Execution.resolve (process.view system.files) path arguments environment with
  | .error fault => system.withFirst { process with action := goOn fault }
  | .ok (name, arguments) =>
    let begun : Process :=
      { process with
        action := software name arguments environment process.ignored
        descriptors := process.descriptors.filter fun descriptor => !descriptor.aside
        awaited := []
        noted := [] }
    ((system.withFirst begun).spend programTime).rotate

/-- Answers a request of the first process, if that is possible. -/
def grant? (software : Software) (system : System) (process : Process) :
    (request : Request) → (request.Reply → Action Nat) → Option System
  | .pause, goOn => some (system.withFirst { process with action := goOn () }).pause
  | .fork, goOn => some (system.forkFirst process goOn)
  | .sleep duration, goOn =>
    let later := Action.ask (.sleepUntil (system.now + duration)) goOn
    some (system.withFirst { process with action := later })
  | .signal addressee signal, goOn => some (system.signalFirst process addressee signal goOn)
  | .write descriptor text, goOn => system.writeFirst process descriptor text goOn
  | .close descriptor, goOn => some (system.closeFirst process descriptor goOn)
  | .read descriptor limit, goOn =>
    (system.answer process (.read descriptor limit)).map fun (system, process, reply) =>
      let count := (reply.toOption.map List.length).getD 0
      (system.withFirst { process with action := goOn reply }).spend (count / octetRate)
  | .startProgram path arguments environment, goOn =>
    some (startFirst software system process path arguments environment goOn)
  | request, goOn =>
    (system.answer process request).map fun (system, process, reply) =>
      system.withFirst { process with action := goOn reply }

/-- Whether a process is stopped, unless it is to end all the same. -/
def isHalted (process : Process) : Bool :=
  process.stopped && process.doom != some killSignal

/-- Lets the first process go on by one request, if it can be answered. -/
def step? (software : Software) (system : System) : Option System :=
  match system.processes with
  | [] => none
  | process :: _ =>
    if isHalted process then none
    else
      match process.doom, process.action with
      | some signal, _ => some (system.bury process (.signalled signal))
      | none, .give status => some (system.bury process (.exited (status % 256 : Nat)))
      | none, .exit status => some (system.bury process (.exited (status % 256 : Nat)))
      | none, .ask request goOn => grant? software system process request goOn

/-- How the first process of a group has ended, if it has. -/
def status? (system : System) (group : Nat) : Option ExitStatus :=
  (system.ended.find? fun record => record.number == group).map (·.status)

/-- Whether the first process of a group has ended, and nobody writes any more. -/
def isOver (system : System) (group : Nat) : Bool :=
  (system.status? group).isSome && !system.isCaptured group

/-- Lets processes go on until a group is over, a moment has come, or nothing can happen any
more. The first bound is how many requests are answered, and the other number how many
processes one after the other have not been able to go on. -/
def run (software : Software) (group deadline : Nat) : Nat → Nat → System → System
  | 0, _, system => system
  | bound + 1, idle, system =>
    if system.isOver group ∨ deadline ≤ system.now then system
    else
      match step? software system with
      | some next => run software group deadline bound 0 next
      | none =>
        if idle + 1 < system.processes.length then
          run software group deadline bound (idle + 1) system.rotate
        else
          match system.nextWake? with
          | none => system
          | some moment =>
            if deadline ≤ moment then { system with now := deadline }
            else
              run software group deadline bound 0
                { system with now := max moment system.now }.rotate

/-- Ends all processes of a group. -/
def endGroup (system : System) (group : Nat) : System :=
  (system.processes.filter fun process => process.group == group).foldl
    (fun system process => system.bury process (.signalled killSignal)) system

def written (system : System) (group : Nat) : Text :=
  ((system.captures.lookup group).getD []).reverse.flatten

/-- Forgets what is known of a group that has ended. -/
def forget (system : System) (group : Nat) : System :=
  { system with
    ended := system.ended.filter fun record => record.number ≠ group
    captures := system.captures.filter fun (number, _) => number ≠ group }

/-- Starts the first process of a group in the working directory. It reads nothing, and what
it writes is gathered. -/
def begin_ (system : System) (action : Action Nat) : System × Nat :=
  let number := system.nextProcess
  let (system, source) := system.addStream ⟨.device .null, 0, true, false⟩
  let (system, target) := system.addStream ⟨.capture number, 0, false, true⟩
  let process : Process :=
    { number := number, parent := outside, group := number, action := action
      directory := system.files.workingDirectory
      descriptors := [⟨0, source, false⟩, ⟨1, target, false⟩, ⟨2, target, false⟩]
      ignored := [], awaited := [], noted := [], stopped := false, doom := none }
  ({ system with
      processes := process :: system.processes
      captures := (number, []) :: system.captures
      nextProcess := number + 1 },
    number)

end ScriptDesk.System

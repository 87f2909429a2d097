import ScriptDesk.System.Request

/-!
# Processes

The state of a system: its files, its processes, and the streams between them. Time is
counted in microseconds. Processes take turns; the one that is first in the list is at work.
-/

namespace ScriptDesk

/-- Where a stream leads to. -/
inductive Channel where
  /-- What the processes of a group write, which is gathered. -/
  | capture (group : Nat)
  /-- One of the two ends of a pipe. -/
  | pipeEnd (pipe : Nat) (writes : Bool)
  | file (path : List Text) (extends_ : Bool)
  /-- A file that has been removed, with the octets that it had. -/
  | removed (octets : Octets)
  | directory
  | device (device : Device)

/-- Something that is open, and how far it has been read or written. -/
structure Stream where
  channel : Channel
  offset : Nat
  reads : Bool
  writes : Bool

/-- A pipe with the octets that have not been read: those to be read next, and further
pieces, the last one first. -/
structure Pipe where
  front : Text
  back : List Text
  size : Nat

/-- What a process calls a stream. A descriptor that has been put aside is closed when a
program takes the place of the process. -/
structure Descriptor where
  number : Nat
  stream : Nat
  aside : Bool

/-- A process, with what it has still to do. -/
structure Process where
  number : Nat
  parent : Nat
  group : Nat
  action : Action Nat
  directory : List Text
  descriptors : List Descriptor
  /-- The signals that the process ignores, and those that it takes note of. -/
  ignored : List Nat
  awaited : List Nat
  /-- The signals that have been noted. -/
  noted : List Nat
  stopped : Bool
  /-- The signal by which the process will end before it does anything else. -/
  doom : Option Nat

/-- A process that has ended, of which its parent has not been told. -/
structure Ended where
  number : Nat
  parent : Nat
  status : ExitStatus

/-- The state of a system. -/
structure System where
  files : FileTree
  processes : List Process
  ended : List Ended
  streams : List (Nat × Stream)
  pipes : List (Nat × Pipe)
  captures : List (Nat × List Text)
  now : Nat
  /-- When the turn of the process at work is over. -/
  turnEnd : Nat
  nextProcess : Nat
  nextStream : Nat

/-- The number of what has started the first process of a group. -/
def System.outside : Nat := 1

/-- A system on which nothing runs. -/
def System.idle (files : FileTree) : System where
  files := files
  processes := []
  ended := []
  streams := []
  pipes := []
  captures := []
  now := 0
  turnEnd := 0
  nextProcess := 4242
  nextStream := 0

namespace Pipe

/-- The greatest number of octets that a pipe holds. -/
def limit : Nat := 65536

def empty : Pipe := ⟨[], [], 0⟩

/-- The pipe with all that it holds in one piece. -/
def gathered (pipe : Pipe) : Pipe :=
  if pipe.back.isEmpty then pipe
  else { pipe with front := pipe.front ++ pipe.back.reverse.flatten, back := [] }

/-- Puts octets behind those in the pipe. -/
def put (pipe : Pipe) (text : Text) (count : Nat) : Pipe :=
  { pipe with back := text :: pipe.back, size := pipe.size + count }

/-- Takes no more octets than the limit out of the pipe. -/
def take (pipe : Pipe) (limit : Nat) : Pipe × Text :=
  let whole := pipe.gathered
  let taken := whole.front.take limit
  ({ whole with front := whole.front.drop limit, size := whole.size - taken.length }, taken)

/-- The first line of a text, with its line end if there is one. -/
def firstLine : Text → Text
  | [] => []
  | character :: rest => if character = '\n' then ['\n'] else character :: firstLine rest

/-- Takes one line out of the pipe, or what there is of it. -/
def takeLine (pipe : Pipe) : Pipe × Text :=
  let whole := if pipe.front.contains '\n' then pipe else pipe.gathered
  let taken := firstLine whole.front
  ({ whole with front := whole.front.drop taken.length, size := whole.size - taken.length },
    taken)

end Pipe

namespace Process

def stream? (process : Process) (descriptor : Nat) : Option Nat :=
  (process.descriptors.find? fun known => known.number = descriptor).map (·.stream)

def forget (process : Process) (descriptor : Nat) : Process :=
  { process with
    descriptors := process.descriptors.filter fun known => known.number ≠ descriptor }

def connect (process : Process) (descriptor stream : Nat) (aside : Bool) : Process :=
  let others := process.descriptors.filter fun known => known.number ≠ descriptor
  { process with descriptors := ⟨descriptor, stream, aside⟩ :: others }

/-- The least number, from a given one on, that is no descriptor. -/
def vacant (process : Process) (least : Nat) : Nat :=
  let numbers := process.descriptors.map (·.number)
  ((List.range (numbers.length + 1)).map (least + ·)).find?
    (fun number => !numbers.contains number) |>.getD least

def view (process : Process) (files : FileTree) : FileTree :=
  { files with workingDirectory := process.directory }

end Process

/-- The signal that ends a process whatever it does about signals. -/
def killSignal : Nat := 9

/-- What a signal does to a process. -/
inductive SignalEffect where
  | nothing
  | noted
  | stops
  | resumes
  | ends
deriving DecidableEq, Repr

namespace SignalEffect

/-- The signals that change nothing where nothing else is said. -/
def harmless : List Nat := [0, 17, 23, 28]

/-- The signals that stop a process where nothing else is said. -/
def stopping : List Nat := [19, 20, 21, 22]

/-- What a signal does to a process. Two signals cannot be ignored or noted. -/
def of (process : Process) (signal : Nat) : SignalEffect :=
  if signal = 0 then .nothing
  else if signal = killSignal then .ends
  else if signal = 19 then .stops
  else if signal = 18 then .resumes
  else if process.ignored.contains signal then .nothing
  else if process.awaited.contains signal then .noted
  else if harmless.contains signal then .nothing
  else if stopping.contains signal then .stops
  else .ends

end SignalEffect

namespace Process

def receive (process : Process) (signal : Nat) : Process :=
  match SignalEffect.of process signal with
  | .noted =>
    if process.noted.contains signal then process
    else { process with noted := process.noted ++ [signal] }
  | .ends =>
    { process with doom := some (if signal = killSignal then signal else process.doom.getD signal) }
  | .stops => { process with stopped := true }
  | .resumes =>
    let resumed := { process with stopped := false }
    if process.awaited.contains signal then { resumed with noted := resumed.noted ++ [signal] }
    else resumed
  | _ => process

end Process

namespace System

def stream? (system : System) (number : Nat) : Option Stream :=
  system.streams.lookup number

/-- A value under a number, in place of the one that was there. -/
def setNumbered {Value : Type} (entries : List (Nat × Value)) (number : Nat) (value : Value) :
    List (Nat × Value) :=
  entries.map fun (known, other) => if known = number then (known, value) else (known, other)

def setStream (system : System) (number : Nat) (stream : Stream) : System :=
  { system with streams := setNumbered system.streams number stream }

def setPipe (system : System) (number : Nat) (pipe : Pipe) : System :=
  { system with pipes := setNumbered system.pipes number pipe }

/-- Adds a stream and gives its number. -/
def addStream (system : System) (stream : Stream) : System × Nat :=
  ({ system with
      streams := (system.nextStream, stream) :: system.streams
      nextStream := system.nextStream + 1 },
    system.nextStream)

/-- Whether some process has a descriptor that leads to a channel of a kind. -/
def holds (system : System) (kind : Channel → Bool) : Bool :=
  system.processes.any fun process =>
    process.descriptors.any fun descriptor =>
      match system.stream? descriptor.stream with
      | some stream => kind stream.channel
      | none => false

def hasReader (system : System) (pipe : Nat) : Bool :=
  system.holds fun channel =>
    match channel with
    | .pipeEnd number writes => number == pipe && !writes
    | _ => false

def hasWriter (system : System) (pipe : Nat) : Bool :=
  system.holds fun channel =>
    match channel with
    | .pipeEnd number writes => number == pipe && writes
    | _ => false

/-- Whether some process can still write to what is gathered of a group. -/
def isCaptured (system : System) (group : Nat) : Bool :=
  system.holds fun channel =>
    match channel with
    | .capture number => number == group
    | _ => false

/-- Leaves out the streams that no descriptor leads to, and the pipes without ends. -/
def tidy (system : System) : System :=
  let used := system.processes.flatMap fun process => process.descriptors.map (·.stream)
  let streams := system.streams.filter fun (number, _) => used.contains number
  let pipes := system.pipes.filter fun (number, _) =>
    streams.any fun (_, stream) =>
      match stream.channel with
      | .pipeEnd pipe _ => pipe == number
      | _ => false
  { system with streams := streams, pipes := pipes }

/-- The signal by which a process is told that a child has ended. -/
def childSignal : Nat := 17

/-- Lets a process end. Its parent can learn its status, and is sent a signal; its children
have no parent from then on. -/
def bury (system : System) (process : Process) (status : ExitStatus) : System :=
  let others := system.processes.filter fun other => other.number ≠ process.number
  let told := others.map fun other =>
    if other.number = process.parent then other.receive childSignal
    else if other.parent = process.number then { other with parent := 0 }
    else other
  let records := system.ended.filter fun record => record.parent ≠ process.number
  let isAwaited :=
    process.parent == outside || others.any fun other => other.number == process.parent
  let record := Ended.mk process.number process.parent status
  { system with
    processes := told
    ended := if isAwaited then records ++ [record] else records }.tidy

def isFor (addressee : Addressee) (sender process : Process) : Bool :=
  match addressee with
  | .process number => process.number == number
  | .group number => process.group == number
  | .ownGroup => process.group == sender.group

/-- Sends a signal. The flag says whether it is for any process. -/
def send (system : System) (sender : Process) (addressee : Addressee) (signal : Nat) :
    System × Bool :=
  let isReached := system.processes.any (isFor addressee sender)
  let isRemembered :=
    match addressee with
    | .process number => system.ended.any fun record => record.number == number
    | _ => false
  ({ system with
      processes := system.processes.map fun process =>
        if isFor addressee sender process then process.receive signal else process },
    isReached || isRemembered)

end System

end ScriptDesk

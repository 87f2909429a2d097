import ScriptDesk.System.Process

/-!
# How the system answers

What becomes of the system and of a process when a request of that process is answered. A
request that cannot be answered yet is not answered at all; it stays until it can be.
-/

namespace ScriptDesk.System

/-- An answer to a request: the system, the process and the reply. -/
abbrev Answer (request : Request) := System × Process × request.Reply

/-- The descriptor is not open for what is asked. -/
def badDescriptor : Fault := .system 9

/-- Nobody can read what is written. -/
def brokenPipe : Fault := .system 32

def noSpace : Fault := .system 28

/-- The signal for writing what nobody can read. -/
def pipeSignal : Nat := 13

def fileOctets (files : FileTree) (path : List Text) : Octets :=
  match files.node? path with
  | some (.file octets _) => octets
  | some (.tool _) => FileTree.toolOctets
  | _ => []

/-- Octets with others in the place from an offset on. -/
def overwrite (octets : Octets) (offset : Nat) (new : Octets) : Octets :=
  let front := octets.take offset
  front ++ List.replicate (offset - front.length) 0 ++ new ++ octets.drop (offset + new.length)

/-- Writes to a file, at an offset or behind its end, and gives the offset behind. -/
def writeFile (files : FileTree) (path : List Text) (offset : Option Nat) (new : Octets) :
    FileTree × Nat :=
  match files.node? path with
  | some (.file octets executable) =>
    match offset with
    | none => (files.enter path (.file (octets ++ new) executable), 0)
    | some offset =>
      (files.enter path (.file (overwrite octets offset new) executable), offset + new.length)
  | _ => (files, 0)

def install (system : System) (process : Process) (descriptor : Nat) (channel : Channel)
    (mode : OpenMode) : System × Process × Except Fault Unit :=
  let stream : Stream := ⟨channel, 0, mode = .read ∨ mode = .update, mode ≠ .read⟩
  let (system, number) := system.addStream stream
  (system, process.connect descriptor number false, .ok ())

/-- Opens what a descriptor of the process leads to once more. -/
def reopen (system : System) (process : Process) (source descriptor : Nat) (mode : OpenMode) :
    System × Process × Except Fault Unit :=
  match (process.stream? source).bind system.stream? with
  | none => (system, process, .error .notFound)
  | some stream =>
    match stream.channel with
    | .file path _ => install system process descriptor (.file path (mode = .extend)) mode
    | .pipeEnd pipe _ => install system process descriptor (.pipeEnd pipe (mode ≠ .read)) mode
    | channel => install system process descriptor channel mode

def openFile (system : System) (process : Process) (path : Text) (mode : OpenMode)
    (descriptor : Nat) : System × Process × Except Fault Unit :=
  let files := process.view system.files
  let target :=
    if mode ≠ .read ∧ path.getLast? = some '/' then
      (files.place path).bind fun _ => .error .isDirectory
    else files.follow path
  match target with
  | .error fault => (system, process, .error fault)
  | .ok absolute =>
    let fresh (system : System) :=
      install system process descriptor (.file absolute (mode = .extend)) mode
    match files.node? absolute with
    | some .directory =>
      if mode = .read then install system process descriptor .directory mode
      else (system, process, .error .isDirectory)
    | some (.file _ executable) =>
      if mode = .replace then
        fresh { system with files := system.files.enter absolute (.file [] executable) }
      else fresh system
    | some (.tool _) =>
      if mode = .read then fresh system else (system, process, .error (.system 26))
    | some (.device (.descriptor source)) => reopen system process source descriptor mode
    | some (.device .terminal) => (system, process, .error (.system 6))
    | some (.device device) => install system process descriptor (.device device) mode
    | some (.link _) => (system, process, .error .notFound)
    | none =>
      if mode = .read then (system, process, .error .notFound)
      else if files.node? absolute.dropLast = some .directory then
        fresh { system with files := system.files.enter absolute (.file [] false) }
      else (system, process, .error .notFound)

/-- What there is to be read from a stream, given how much of the octets that follow is
wanted, and how many octets of a stream without end. There is no answer as long as a pipe is
empty and someone can write to it. -/
def readStream (system : System) (number : Nat) (stream : Stream) (wanted : Text → Text)
    (ofPipe : Pipe → Pipe × Text) (count : Nat) : Option (System × Except Fault Text) :=
  let ofOctets (octets : Octets) : System × Except Fault Text :=
    let text := wanted (Utf8.toCharacters (octets.drop stream.offset))
    (system.setStream number { stream with offset := stream.offset + text.length }, .ok text)
  if stream.reads = false then some (system, .error badDescriptor)
  else
    match stream.channel with
    | .capture _ => some (system, .error badDescriptor)
    | .directory => some (system, .error .isDirectory)
    | .device .null => some (system, .ok [])
    | .device _ => some (system, .ok (List.replicate count '\x00'))
    | .file path _ => some (ofOctets (fileOctets system.files path))
    | .removed octets => some (ofOctets octets)
    | .pipeEnd pipe _ =>
      match system.pipes.lookup pipe with
      | none => some (system, .ok [])
      | some content =>
        if content.size = 0 then
          if system.hasWriter pipe then none else some (system, .ok [])
        else
          let (left, text) := ofPipe content
          some (system.setPipe pipe left, .ok text)

def readFrom (system : System) (process : Process) (descriptor : Nat) (wanted : Text → Text)
    (ofPipe : Pipe → Pipe × Text) (count : Nat) :
    Option (System × Process × Except Fault Text) :=
  match process.stream? descriptor with
  | none => some (system, process, .error badDescriptor)
  | some number =>
    match system.stream? number with
    | none => some (system, process, .error badDescriptor)
    | some stream =>
      (readStream system number stream wanted ofPipe count).map fun (system, reply) =>
        (system, process, reply)

/-- What becomes of a text that is written. -/
inductive Writing where
  | done (system : System)
  | refused (fault : Fault)
  /-- Nobody can read what is written. -/
  | unread
  /-- So many octets had space in a pipe. -/
  | partly (system : System) (count : Nat)

def writeStream (system : System) (number : Nat) (stream : Stream) (text : Text) : Writing :=
  if stream.writes = false then .refused badDescriptor
  else
    match stream.channel with
    | .capture group =>
      let pieces := (system.captures.lookup group).getD []
      .done { system with captures := setNumbered system.captures group (text :: pieces) }
    | .directory => .refused badDescriptor
    | .device .full => .refused noSpace
    | .device _ => .done system
    | .file path extends_ =>
      let (files, offset) := writeFile system.files path
        (if extends_ then none else some stream.offset) (Utf8.ofCharacters text)
      .done ({ system with files := files }.setStream number { stream with offset := offset })
    | .removed octets =>
      let new := Utf8.ofCharacters text
      .done (system.setStream number { stream with
        channel := .removed (overwrite octets stream.offset new)
        offset := stream.offset + new.length })
    | .pipeEnd pipe _ =>
      match system.pipes.lookup pipe with
      | none => .unread
      | some content =>
        if system.hasReader pipe = false then .unread
        else
          let room := Pipe.limit - content.size
          let written := text.take room
          let count := written.length
          let filled := system.setPipe pipe (content.put written count)
          if count < text.length then .partly (if count = 0 then system else filled) count
          else .done filled

def writeTo (system : System) (process : Process) (descriptor : Nat) (text : Text) : Writing :=
  if text.isEmpty then
    if (process.stream? descriptor).isSome then .done system else .refused badDescriptor
  else
    match process.stream? descriptor with
    | none => .refused badDescriptor
    | some number =>
      match system.stream? number with
      | none => .refused badDescriptor
      | some stream => writeStream system number stream text

/-- Lets streams keep the octets of files that are not there any more. -/
def keepRemoved (before : FileTree) (system : System) : System :=
  let kept := system.streams.map fun (number, stream) =>
    match stream.channel with
    | .file path _ =>
      if (system.files.node? path).isNone then
        (number, { stream with channel := .removed (fileOctets before path) })
      else (number, stream)
    | _ => (number, stream)
  { system with streams := kept }

def alterFiles (system : System) (process : Process)
    (change : FileTree → Except Fault FileTree) : System × Process × Except Fault Unit :=
  match change (process.view system.files) with
  | .error fault => (system, process, .error fault)
  | .ok files =>
    let directory := system.files.workingDirectory
    let changed := { system with files := { files with workingDirectory := directory } }
    (keepRemoved system.files changed, { process with directory := files.workingDirectory },
      .ok ())

def makePipe (system : System) (process : Process) : System × Process × (Nat × Nat) :=
  let pipe := system.nextStream
  let (system, source) := system.addStream ⟨.pipeEnd pipe false, 0, true, false⟩
  let (system, target) := system.addStream ⟨.pipeEnd pipe true, 0, false, true⟩
  let front := process.vacant 0
  let opened := process.connect front source false
  let back := opened.vacant 0
  ({ system with pipes := (pipe, Pipe.empty) :: system.pipes },
    opened.connect back target false, (front, back))

/-- A child of a process that has ended, of which the process is now told. -/
def collect (system : System) (process : Process) : Option (System × Ended) :=
  (system.ended.find? fun record => record.parent == process.number).map fun record =>
    ({ system with ended := system.ended.filter fun other => other.number ≠ record.number },
      record)

def awaitChild (system : System) (process : Process) (interruptible : Bool) :
    Option (System × Process × Waited) :=
  match system.collect process with
  | some (system, record) => some (system, process, .ended record.number record.status)
  | none =>
    if interruptible && process.noted.any (· ≠ childSignal) then
      some (system, process, .interrupted)
    else if system.processes.any fun other => other.parent == process.number then none
    else some (system, process, .childless)

def react (process : Process) (signal : Nat) (disposition : Disposition) : Process :=
  let ignored := process.ignored.filter (· ≠ signal)
  let awaited := process.awaited.filter (· ≠ signal)
  match disposition with
  | .ordinary => { process with ignored := ignored, awaited := awaited }
  | .ignored => { process with ignored := signal :: ignored, awaited := awaited }
  | .noted => { process with ignored := ignored, awaited := signal :: awaited }

/-- Lets a descriptor lead to where another one leads. -/
def duplicate (process : Process) (source target : Nat) (aside : Bool) : Option Process :=
  (process.stream? source).map fun stream =>
    if source = target then process else process.connect target stream aside

/-- The least number of a descriptor that is put aside. -/
def asideNumber : Nat := 10

/-- How a stream stands to the file that it leads to, if it does. -/
def standing (system : System) (stream : Stream) : Option Standing :=
  match stream.channel with
  | .file path extends_ =>
    let size := (fileOctets system.files path).length
    some ⟨path, if extends_ then size else stream.offset, size⟩
  | _ => none

def answer (system : System) (process : Process) :
    (request : Request) → Option (Answer request)
  | .pause => some (system, process, ())
  | .fork => none
  | .wait interruptible => awaitChild system process interruptible
  | .collect =>
    match system.collect process with
    | some (system, record) => some (system, process, some (record.number, record.status))
    | none => some (system, process, none)
  | .sleep _ => none
  | .sleepUntil moment => if moment ≤ system.now then some (system, process, ()) else none
  | .signal _ _ => none
  | .react signal disposition => some (system, react process signal disposition, ())
  | .notedSignals => some (system, { process with noted := [] }, process.noted)
  | .identity => some (system, process, (process.number, process.parent))
  | .look => some (system, process, process.view system.files)
  | .alter change => some (alterFiles system process change)
  | .openFile path mode descriptor => some (openFile system process path mode descriptor)
  | .close descriptor => some (system, process.forget descriptor, ())
  | .duplicate source target =>
    match duplicate process source target false with
    | some process => some (system, process, true)
    | none => some (system, process, false)
  | .keepAside descriptor =>
    let number := process.vacant asideNumber
    match duplicate process descriptor number true with
    | some process => some (system, process, some number)
    | none => some (system, process, none)
  | .pipe => some (makePipe system process)
  | .read descriptor limit =>
    readFrom system process descriptor (·.take limit) (·.take limit) limit
  | .readLine descriptor =>
    readFrom system process descriptor Pipe.firstLine Pipe.takeLine 1
  | .write _ _ => none
  | .standing descriptor =>
    let stream := (process.stream? descriptor).bind system.stream?
    some (system, process, stream.bind system.standing)
  | .stepBack descriptor count =>
    match process.stream? descriptor with
    | none => some (system, process, ())
    | some number =>
      match system.stream? number with
      | none => some (system, process, ())
      | some stream =>
        some (system.setStream number { stream with offset := stream.offset - count },
          process, ())
  | .startProgram _ _ _ => none

end ScriptDesk.System

import ScriptDesk.ExitStatus
import ScriptDesk.FileTree

/-!
# What processes ask for

A process works on values of its own until it needs the system: to read or write, to start
another process, to wait, or to look at the files. It is a tree of such requests; behind
each of them stands how the process goes on with every possible reply. Nothing of this says
what the replies are.
-/

namespace ScriptDesk

/-- How a file is to be opened. -/
inductive OpenMode where
  | read
  /-- For writing, in place of what the file holds. -/
  | replace
  /-- For writing behind what the file holds. -/
  | extend
  /-- For reading and writing. -/
  | update
deriving DecidableEq, Repr

/-- What a process does about a signal. -/
inductive Disposition where
  /-- What every process does about the signal. -/
  | ordinary
  | ignored
  /-- The process takes note of the signal and goes on. -/
  | noted
deriving DecidableEq, Repr

/-- Whom a signal is for. -/
inductive Addressee where
  | process (number : Nat)
  | group (number : Nat)
  | ownGroup
deriving DecidableEq, Repr

/-- What waiting for a child comes to. -/
inductive Waited where
  | ended (child : Nat) (status : ExitStatus)
  /-- A signal was noted before a child had ended. -/
  | interrupted
  /-- There is no such child. -/
  | childless
deriving DecidableEq, Repr

/-- A file that a descriptor leads to, how far it has been read or written, and its size. -/
structure Standing where
  path : List Text
  offset : Nat
  size : Nat

/-- What a process asks the system for. -/
inductive Request where
  /-- Lets time pass. -/
  | pause
  /-- Doubles the process. The new one gets zero, the old one the number of the new one. -/
  | fork
  /-- Waits for the end of any child; the flag says whether signals interrupt. -/
  | wait (interruptible : Bool)
  /-- Learns of a child that has ended, if there is one. -/
  | collect
  | sleep (microseconds : Nat)
  | sleepUntil (moment : Nat)
  | signal (addressee : Addressee) (number : Nat)
  | react (signal : Nat) (disposition : Disposition)
  /-- The signals that have been noted since they were last asked for. -/
  | notedSignals
  /-- The numbers of the process and of its parent. -/
  | identity
  /-- The files, seen from the working directory. -/
  | look
  | alter (change : FileTree → Except Fault FileTree)
  /-- Lets a descriptor lead to a file. -/
  | openFile (path : Text) (mode : OpenMode) (descriptor : Nat)
  | close (descriptor : Nat)
  /-- Lets a descriptor lead to where another one leads. -/
  | duplicate (source target : Nat)
  /-- Puts a copy of a descriptor aside, where programs do not get it. -/
  | keepAside (descriptor : Nat)
  /-- Makes a pipe: one descriptor to read from it and one to write to it. -/
  | pipe
  /-- Reads no more octets than the limit, or no more than one line. -/
  | read (descriptor limit : Nat)
  | readLine (descriptor : Nat)
  | write (descriptor : Nat) (text : Text)
  /-- The file that a descriptor leads to, if it leads to one. -/
  | standing (descriptor : Nat)
  /-- Goes back in a file by a number of octets. -/
  | stepBack (descriptor count : Nat)
  /-- The program at a path takes the place of the process, with its arguments, the first of
  which is its name, and the variables that it sees. There is a reply only if that is not
  possible. -/
  | startProgram (path : Text) (arguments : List Text) (environment : List (Text × Text))

/-- The type of the replies to a request. -/
abbrev Request.Reply : Request → Type
  | .fork => Nat
  | .wait _ => Waited
  | .collect => Option (Nat × ExitStatus)
  | .signal _ _ => Bool
  | .notedSignals => List Nat
  | .identity => Nat × Nat
  | .look => FileTree
  | .alter _ => Except Fault Unit
  | .openFile _ _ _ => Except Fault Unit
  | .duplicate _ _ => Bool
  | .keepAside _ => Option Nat
  | .pipe => Nat × Nat
  | .read _ _ => Except Fault Text
  | .readLine _ => Except Fault Text
  | .write _ _ => Except Fault Unit
  | .standing _ => Option Standing
  | .startProgram _ _ _ => Fault
  | _ => Unit

/-- What a process does until it comes to a value, or to its end. -/
inductive Action (Value : Type) where
  | give (value : Value)
  | exit (status : Nat)
  | ask (request : Request) (goOn : request.Reply → Action Value)

namespace Action

/-- One action, and then another one on its value. -/
def andThen {First Second : Type} (action : Action First) (next : First → Action Second) :
    Action Second :=
  match action with
  | .give value => next value
  | .exit status => .exit status
  | .ask request goOn => .ask request fun reply => (goOn reply).andThen next

instance : Monad Action where
  pure := .give
  bind := andThen

def reply (request : Request) : Action request.Reply :=
  .ask request .give

/-- How many rounds there may be where nothing else limits them. -/
def roundLimit : Nat := 1000000000000000

/-- How many octets are read at once. -/
def pieceSize : Nat := 65536

/-- The octets that a descriptor gives, up to their end. Pieces that have been read stand in
reverse order. -/
def readAllFrom (descriptor : Nat) : Nat → List Text → Action Text
  | 0, pieces => .give pieces.reverse.flatten
  | bound + 1, pieces =>
    .ask (.read descriptor pieceSize) fun reply =>
      match reply with
      | .ok [] => .give pieces.reverse.flatten
      | .ok piece => readAllFrom descriptor bound (piece :: pieces)
      | .error _ => .give pieces.reverse.flatten

/-- The octets that a descriptor gives, up to their end. -/
def readAll (descriptor : Nat) : Action Text :=
  readAllFrom descriptor roundLimit []

end Action

end ScriptDesk

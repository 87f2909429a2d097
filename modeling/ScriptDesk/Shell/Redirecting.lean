import ScriptDesk.Shell.Child

/-!
# Redirecting descriptors

Lets descriptors lead to where the redirections of a command say. The targets are worked out
first. Where the descriptors are to be restored, copies of them are put aside before.
-/

namespace ScriptDesk.Shell

/-- A redirection whose target has been worked out. -/
inductive Prepared where
  | file (descriptor : Nat) (use : FileUse) (path : Text)
  /-- A copy of another descriptor, or none. -/
  | copy (descriptor : Nat) (source : Option Nat)
  | document (descriptor : Nat) (word : Word)

namespace Prepared

def descriptor : Prepared → Nat
  | .file descriptor _ _ => descriptor
  | .copy descriptor _ => descriptor
  | .document descriptor _ => descriptor

end Prepared

/-- A descriptor that is to be restored, and the number under which a copy was put aside. -/
structure Saved where
  descriptor : Nat
  copy : Option Nat

namespace Redirecting

/-- The words for a fault of a file that is to be read. -/
def readingWords (fault : Fault) : Text :=
  if fault = .notFound ∨ fault = .notDirectory then "No such file".toList else fault.words

/-- The words for a fault of a file that is to be written. -/
def writingWords (fault : Fault) : Text :=
  if fault = .notFound ∨ fault = .notDirectory then "Directory nonexistent".toList
  else fault.words

/-- Breaks off because a descriptor is none. The error is that of the line that has been read
last. -/
def failToCopy : Run Prepared := do
  Run.change fun state => { state with line := state.lastLine }
  Run.fail "Syntax error: Bad fd number".toList

def prepare (worker : Worker) : List Redirection → Run (List Prepared)
  | [] => return []
  | .file descriptor use target :: rest => do
    let path ← worker.text .text target
    return .file descriptor use path :: (← prepare worker rest)
  | .copy descriptor source :: rest => do
    let text ← worker.text .text source
    let prepared ←
      match text with
      | ['-'] => pure (Prepared.copy descriptor none)
      | [digit] =>
        if digit.isDigit then pure (.copy descriptor (some (digit.toNat - 48)))
        else failToCopy
      | _ => failToCopy
    return prepared :: (← prepare worker rest)
  | .document descriptor number :: rest => do
    let word := ((← Run.state).documents.lookup number).getD []
    return .document descriptor word :: (← prepare worker rest)

def openFile (descriptor : Nat) (use : FileUse) (path : Text) : Run Unit := do
  let isProtected ←
    if use = .output ∧ (← Run.state).has 'C' then
      pure ((← Run.ask .look).isFile path)
    else pure false
  if isProtected then
    Run.fail ("cannot create ".toList ++ path ++ ": File exists".toList)
  let mode : OpenMode :=
    match use with
    | .input => .read
    | .output => .replace
    | .overwrite => .replace
    | .append => .extend
    | .update => .update
  match ← Run.ask (.openFile path mode descriptor) with
  | .ok () => return ()
  | .error fault =>
    if use = .input then
      Run.fail ("cannot open ".toList ++ path ++ ": ".toList ++ readingWords fault)
    else Run.fail ("cannot create ".toList ++ path ++ ": ".toList ++ writingWords fault)

/-- The greatest length of a document that needs no process of its own. -/
def documentLimit : Nat := 4096

def openDocument (worker : Worker) (descriptor : Nat) (word : Word) : Run Unit := do
  let text ← worker.text .document word
  let (source, target) ← Run.ask .pipe
  if text.length ≤ documentLimit then
    let _ ← Run.ask (.write target text)
  else
    let _ ← Run.fork worker.ending .foreground none do
      Run.ask (.close source)
      [1, 2, 3].forM fun signal => Run.ask (.react signal .ignored)
      Run.ask (.react 13 .ordinary)
      let _ ← Run.ask (.write target text)
      Run.exit 0
  Run.ask (.close target)
  if source ≠ descriptor then
    let _ ← Run.ask (.duplicate source descriptor)
    Run.ask (.close source)

def apply (worker : Worker) : Prepared → Run Unit
  | .file descriptor use path => openFile descriptor use path
  | .document descriptor word => openDocument worker descriptor word
  | .copy descriptor none => Run.ask (.close descriptor)
  | .copy descriptor (some source) => do
    if source ≠ descriptor then
      let isOpen ← Run.ask (.duplicate source descriptor)
      if isOpen = false then
        Run.fail (Text.decimal source ++ ": Bad file descriptor".toList)

/-- Whether a redirection leaves its descriptor as it is. -/
def isIdle : Prepared → Bool
  | .copy descriptor (some source) => source = descriptor
  | _ => false

/-- Makes redirections, and puts copies of their descriptors aside if that is wanted. Gives
what has been put aside, and whether all of them could be made. -/
def applyAll (worker : Worker) (saves : Bool) :
    List Prepared → List Saved → Run (List Saved × Bool)
  | [], saved => return (saved, true)
  | prepared :: rest, saved => do
    let descriptor := prepared.descriptor
    let isNew := saves ∧ isIdle prepared = false ∧
      (saved.any fun known => known.descriptor = descriptor) = false
    let saved ←
      if isNew then
        pure (⟨descriptor, ← Run.ask (.keepAside descriptor)⟩ :: saved)
      else pure saved
    match ← Run.attempt (apply worker prepared) with
    | .ok () => applyAll worker saves rest saved
    | .error .failure => return (saved, false)
    | .error escape => Run.escape escape

/-- Lets descriptors lead to where they led before. -/
def restore (saved : List Saved) : Run Unit :=
  Run.forEach saved fun one => do
    match one.copy with
    | none => Run.ask (.close one.descriptor)
    | some copy =>
      let _ ← Run.ask (.duplicate copy one.descriptor)
      Run.ask (.close copy)

/-- Leaves descriptors as they are, and closes the copies. -/
def forget (saved : List Saved) : Run Unit :=
  Run.forEach saved fun one =>
    match one.copy with
    | none => Run.give ()
    | some copy => Run.ask (.close copy)

end Redirecting

end ScriptDesk.Shell

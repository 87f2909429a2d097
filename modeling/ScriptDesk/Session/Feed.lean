import ScriptDesk.Session.Interactive

/-!
# Feeding an interactive session

Input arrives in chunks that need not end where lines end. Of each chunk all complete
lines are read before the session waits; while it waits, tasks go as far as they can, and
a run that ends is shown. After the last chunk, what is left of a line counts as a line.
-/

namespace ScriptDesk

/-- Something that arrives at an interactive session: input, or a permit for the gate of
the executor. -/
inductive Arrival where
  | chunk (octets : Octets)
  | permit

/-- An interactive session with the beginning of a line that is not complete, and the
permits that have not been used. -/
structure Feed where
  interactive : Interactive
  unread : Octets
  permits : Nat

namespace Feed

/-- Octets as complete lines without their line feeds, and what follows the last. -/
def splitLines : Octets → List Octets × Octets
  | [] => ([], [])
  | octet :: rest =>
    match splitLines rest with
    | (lines, unread) =>
      if octet = 10 then ([] :: lines, unread)
      else
        match lines with
        | [] => ([], octet :: unread)
        | first :: others => ((octet :: first) :: others, unread)

/-- A line without the carriage return that belongs to its line end. -/
def withoutReturn (line : Octets) : Octets :=
  match line.reverse with
  | last :: rest => if last = 13 then rest.reverse else line
  | [] => line

/-- Takes a turn, if it is possible. -/
def tryTurn (setting : Setting) (interactive : Interactive) (turn : Turn) : Interactive :=
  (interactive.turn? setting turn).getD interactive

def readLines (setting : Setting) (interactive : Interactive) (lines : List Octets) :
    Interactive :=
  lines.foldl (fun interactive line => tryTurn setting interactive (.line line)) interactive

/-- Lets tasks go as far as they can, and shows a run that ends. -/
def wait (setting : Setting) (feed : Feed) : Feed :=
  let phase := feed.interactive.phase
  let session := feed.interactive.session
  if phase = .reading ∨ phase = .closing then
    let (settled, permits) := session.app.controller.settle setting.executor feed.permits
    let controller := settled.poll
    let waited := { session with app := { session.app with controller := controller } }
    let interactive :=
      if session.app.state.isRunning = true ∧ controller.state.isRunning = false then
        Interactive.showFinished setting phase waited
      else ⟨waited, phase⟩
    { feed with interactive := interactive, permits := permits }
  else feed

/-- Takes in what arrives, and goes on until nothing more can happen. -/
def take (setting : Setting) (feed : Feed) : Arrival → Feed
  | .permit => { feed with permits := feed.permits + 1 }.wait setting
  | .chunk octets =>
    let (lines, unread) := splitLines (feed.unread ++ octets)
    let interactive := readLines setting feed.interactive (lines.map withoutReturn)
    { feed with interactive := interactive, unread := unread }.wait setting

/-- Takes in the end of the input. -/
def close (setting : Setting) (feed : Feed) : Feed :=
  let last := if feed.unread.isEmpty then [] else [feed.unread]
  let interactive := readLines setting feed.interactive last
  let closed := tryTurn setting interactive .endOfInput
  { feed with interactive := closed, unread := [] }.wait setting

def run (setting : Setting) (session : Session) (arrivals : List Arrival) : Interactive :=
  let begun := Feed.mk (Interactive.start setting session) [] 0
  let fed := arrivals.foldl (take setting) begun
  (fed.close setting).interactive

end Feed

end ScriptDesk

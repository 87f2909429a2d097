import ScriptDesk.Text.Utf8
import ScriptDesk.View

/-!
# The terminal

Lines are painted by writing pieces: the text itself, and around it, with colour on, the
sequences that switch the attributes of the terminal. A terminal may have room for a
limited number of octets; a piece that does not fit is not written, and nothing after it.
-/

namespace ScriptDesk

namespace Tone

/-- The number of the colour that a tone is shown in. A plain line has none. -/
def colour? : Tone → Option Nat
  | .plain => none
  | .muted => some 8
  | .pending => some 11
  | .success => some 10
  | .error => some 9
  | .link => some 14

end Tone

/-- What has been written, and how many more octets can be. -/
structure Terminal where
  written : Text
  room : Option Nat
deriving DecidableEq, Repr

namespace Terminal

/-- A terminal that takes everything. -/
def unlimited : Terminal := ⟨[], none⟩

def limited (octets : Nat) : Terminal := ⟨[], some octets⟩

def full : Fault := .described "sink full".toList

/-- Writes a piece, if there is room for all of it. -/
def write (terminal : Terminal) (piece : Text) : Except Fault Terminal :=
  match terminal.room with
  | none => .ok ⟨terminal.written ++ piece, none⟩
  | some octets =>
    if Utf8.size piece ≤ octets then
      .ok ⟨terminal.written ++ piece, some (octets - Utf8.size piece)⟩
    else .error full

/-- Writes pieces in their order up to the first that fails. -/
def writeAll (terminal : Terminal) : List Text → Terminal × Option Fault
  | [] => (terminal, none)
  | piece :: rest =>
    match terminal.write piece with
    | .ok next => next.writeAll rest
    | .error fault => (terminal, some fault)

def attributes (codes : Text) : Text :=
  '\x1b' :: '[' :: codes ++ ['m']

def colourCodes (colour : Nat) : Text :=
  "38;5;".toList ++ Text.decimal colour

def pieces (coloured : Bool) (line : ViewLine) : List Text :=
  match line.tone.colour?.filter fun _ => coloured with
  | some colour =>
    [attributes (colourCodes colour)] ++
      (if line.tone = .link then [attributes ['4']] else []) ++
      [line.text, attributes ['0'], attributes ['0'], ['\n']]
  | none => [line.text, ['\n']]

def paint (terminal : Terminal) (coloured : Bool) (lines : List ViewLine) :
    Terminal × Option Fault :=
  terminal.writeAll (lines.flatMap (pieces coloured))

/-- What painting writes where there is room. -/
def painted (coloured : Bool) (lines : List ViewLine) : Text :=
  (lines.flatMap (pieces coloured)).flatten

theorem writeAll_unlimited (written : Text) (texts : List Text) :
    (Terminal.mk written none).writeAll texts = (⟨written ++ texts.flatten, none⟩, none) := by
  induction texts generalizing written with
  | nil => simp [writeAll]
  | cons piece rest others => simp [writeAll, write, others]

theorem paint_unlimited (written : Text) (coloured : Bool) (lines : List ViewLine) :
    (Terminal.mk written none).paint coloured lines =
      (⟨written ++ painted coloured lines, none⟩, none) :=
  writeAll_unlimited written _

end Terminal

end ScriptDesk

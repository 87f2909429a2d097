import ScriptDesk.Shell.Builtin.Variables

/-!
# Reading lines into variables

A line is read from the input and cut at separators; each variable gets one field, and the
last one gets what is left. A backslash takes away the meaning of the character behind it.
-/

namespace ScriptDesk.Shell.Builtin

open Run

/-- A line as far as it has been read, in reverse order. Each character has a note on whether
a backslash stood in front of it. -/
structure LineRead where
  characters : List (Char × Bool)
  isEscaped : Bool
  isOver : Bool

namespace LineRead

/-- Nothing has been read. -/
def start : LineRead := ⟨[], false, false⟩

def take (isRaw : Bool) (line : LineRead) (character : Char) : LineRead :=
  if line.isOver ∨ character = '\x00' then line
  else if line.isEscaped then
    if character = '\n' then { line with isEscaped := false }
    else { line with characters := (character, true) :: line.characters, isEscaped := false }
  else if character = '\\' ∧ isRaw = false then { line with isEscaped := true }
  else if character = '\n' then { line with isOver := true }
  else { line with characters := (character, false) :: line.characters }

end LineRead

/-- Reads a line, given what has been read of it. -/
def readLine (isRaw : Bool) : Nat → LineRead → Run LineRead
  | 0, line => give line
  | bound + 1, line => do
    match ← ask (.readLine 0) with
    | .ok [] => return line
    | .error _ => return line
    | .ok piece =>
      let taken := piece.foldl (LineRead.take isRaw) line
      if taken.isOver then return taken else readLine isRaw bound taken

/-- A line that is being cut. Fields are given by the places of their first characters and of
those behind them. -/
structure LineCut where
  begin_ : Nat
  /-- Where the last field ends if nothing but separators follows. -/
  stop : Option Nat
  /-- How many fields may still be begun. -/
  left : Nat
  /-- A blank separator has just been met. -/
  afterBlank : Bool
  fields : List (Nat × Nat)

namespace LineCut

/-- Meets a character that follows the beginning of the last field. -/
def meetLast (cut : LineCut) (place : Nat) (isSeparator isBlank : Bool) : LineCut :=
  if isBlank then { cut with stop := some (cut.stop.getD place) }
  else
    { cut with
      stop := if isSeparator ∧ cut.afterBlank then cut.stop else none, afterBlank := false }

def meetSeparator (cut : LineCut) (place : Nat) (isBlank : Bool) : LineCut :=
  if place = cut.begin_ ∧ isBlank then
    { cut with begin_ := place + 1, afterBlank := false }
  else if cut.left = 1 then
    { cut with left := 0, stop := some place, afterBlank := isBlank }
  else
    { cut with
      left := cut.left - 1, begin_ := place + 1, afterBlank := isBlank
      fields := (cut.begin_, place) :: cut.fields }

def meet (separators : Text) (cut : LineCut) (entry : (Char × Bool) × Nat) : LineCut :=
  let ((character, escaped), place) := entry
  let isSeparator := separators.contains character
  let isBlank := isSeparator && defaultSeparators.contains character
  if escaped then { cut with afterBlank := false }
  else if cut.left = 0 then cut.meetLast place isSeparator isBlank
  else if cut.afterBlank then
    let begun := { cut with begin_ := if isSeparator then place + 1 else place }
    if isBlank then begun else { begun with afterBlank := false }
  else if isSeparator then cut.meetSeparator place isBlank
  else cut

end LineCut

/-- The fields of a line for a number of variables. -/
def lineFields (separators : Text) (count : Nat) (line : List (Char × Bool)) : List Text :=
  let cut := line.zipIdx.foldl (LineCut.meet separators) ⟨0, none, count, false, []⟩
  let last := (cut.begin_, cut.stop.getD line.length)
  let text := line.map Prod.fst
  (last :: cut.fields).reverse.map fun (first, behind) => (text.drop first).take (behind - first)

/-- Sets variables to fields, and those for which there is none to nothing. -/
def assignFields : List Text → List Text → Run Unit
  | [], _ => give ()
  | name :: names, fields => do
    assign (← namedVariable name) (fields.headD []) false
    assignFields names (fields.drop 1)

def read (arguments : List Text) : Run Nat := do
  let (found, names) ← options [('p', true), ('r', false)] arguments
  if names.isEmpty then fail "arg count".toList
  let isRaw := found.any fun (letter, _) => letter = 'r'
  let line ← readLine isRaw roundLimit .start
  let separators := ((← state).value? "IFS".toList).getD defaultSeparators
  assignFields names (lineFields separators names.length line.characters.reverse)
  return if line.isOver then 0 else 1

end ScriptDesk.Shell.Builtin

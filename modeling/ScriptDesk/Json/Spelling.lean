import ScriptDesk.Text.Numeral
import ScriptDesk.Text.Utf8

/-!
# Strings as they are spelled

A string of a JSON text is spelled in pieces: characters that stand for themselves or
behind a backslash, and 16-bit units in hexadecimal. A string that is passed over only has
to be spelled correctly; one that is wanted must also be a text, so that units beyond the
16-bit characters have to come in pairs.
-/

namespace ScriptDesk.Json

/-- What is wrong with a JSON text at the first place where something is. -/
inductive Fault where
  /-- It ends too early. -/
  | unfinished
  /-- It is not JSON. -/
  | malformed
  /-- It is JSON up to here, but not what is wanted. -/
  | unsuitable
deriving DecidableEq, Repr

/-- A piece of a string. -/
inductive Piece where
  | character (character : Char)
  | unit (code : Nat)
deriving DecidableEq, Repr

/-- A string as it is spelled, with its fault if it does not come to an end. -/
structure Spelling where
  pieces : List Piece
  fault : Option Fault
deriving DecidableEq, Repr

namespace Spelling

/-- A string with one more piece in front. -/
def extend (piece : Piece) : Spelling × Text → Spelling × Text
  | (spelling, rest) => (⟨piece :: spelling.pieces, spelling.fault⟩, rest)

/-- A string that is broken off. Nothing is read after it. -/
def broken (fault : Fault) : Spelling × Text :=
  (⟨[], some fault⟩, [])

def escaped? (letter : Char) : Option Char :=
  if letter = '"' then some '"'
  else if letter = '\\' then some '\\'
  else if letter = '/' then some '/'
  else if letter = 'b' then some '\x08'
  else if letter = 'f' then some '\x0c'
  else if letter = 'n' then some '\n'
  else if letter = 'r' then some '\r'
  else if letter = 't' then some '\t'
  else none

/-- The unit of four hexadecimal digits. -/
def unit? (a b c d : Char) : Option Nat := do
  let a ← Text.hexValue? a
  let b ← Text.hexValue? b
  let c ← Text.hexValue? c
  let d ← Text.hexValue? d
  return ((a * 16 + b) * 16 + c) * 16 + d

/-- What is wrong with a unit of less than four characters: a text that has not even four
more octets ends too early. -/
def shortUnitFault (rest : Text) : Fault :=
  if Utf8.size rest < 4 then .unfinished else .malformed

/-- Reads a string from behind its first quotation mark, and gives what follows it. -/
def scan : Text → Spelling × Text
  | [] => broken .unfinished
  | character :: rest =>
    if character = '"' then (⟨[], none⟩, rest)
    else if character = '\\' then
      match rest with
      | [] => broken .unfinished
      | letter :: rest =>
        if letter = 'u' then
          match rest with
          | a :: b :: c :: d :: rest =>
            match unit? a b c d with
            | some code => extend (.unit code) (scan rest)
            | none => broken .malformed
          | short => broken (shortUnitFault short)
        else
          match escaped? letter with
          | some character => extend (.character character) (scan rest)
          | none => broken .malformed
    else if character.toNat < 32 then broken .malformed
    else extend (.character character) (scan rest)

/-- Whether a unit is the first of a pair. -/
def isLeading (code : Nat) : Bool := 0xD800 ≤ code && code ≤ 0xDBFF

/-- Whether a unit is the second of a pair. -/
def isTrailing (code : Nat) : Bool := 0xDC00 ≤ code && code ≤ 0xDFFF

def paired (leading trailing : Nat) : Char :=
  Char.ofNat ((leading - 0xD800) * 1024 + (trailing - 0xDC00) + 0x10000)

/-- The text of pieces, behind which a string may break off. -/
def join (fault : Option Fault) : List Piece → Except Fault Text
  | [] =>
    match fault with
    | none => .ok []
    | some fault => .error fault
  | .character character :: rest => (join fault rest).map (character :: ·)
  | .unit code :: rest =>
    if isTrailing code then .error .malformed
    else if isLeading code then
      match rest with
      | .unit second :: rest =>
        if isTrailing second then (join fault rest).map (paired code second :: ·)
        else .error .malformed
      | .character _ :: _ => .error .malformed
      | [] => .error (fault.getD .malformed)
    else (join fault rest).map (Char.ofNat code :: ·)

def text (spelling : Spelling) : Except Fault Text :=
  join spelling.fault spelling.pieces

/-- What follows a string is not longer than what it was read from. -/
theorem length_scan_le (text : Text) : (scan text).2.length ≤ text.length := by
  fun_induction scan text <;> simp_all [broken, extend] <;> omega

end Spelling

end ScriptDesk.Json

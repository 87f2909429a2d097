import ScriptDesk.Text.Basic

/-!
# UTF-8

Octets as UTF-8. The reader works one octet at a time: between characters, or with a
character of which some octets have been read. Well-formed octets decode to their text; a
strict reader reports where the first ill-formed sequence is, and a lossy reader writes
the replacement character for each of them.
-/

namespace ScriptDesk

/-- A string of octets. -/
abbrev Octets := List UInt8

namespace Utf8

/-- A character of which some octets have been read. The next octet must lie between
`low` and `high`. -/
structure Pending where
  owed : Nat
  low : Nat
  high : Nat
  bits : Nat
  read : Nat
deriving DecidableEq, Repr

/-- What one more octet leads to. -/
inductive Progress where
  | complete (character : Char)
  | unfinished (pending : Pending)
  | refused

/-- The first octet of a character. -/
def begin (octet : UInt8) : Progress :=
  let value := octet.toNat
  if value ≤ 0x7F then .complete (Char.ofNat value)
  else if value < 0xC2 then .refused
  else if value ≤ 0xDF then .unfinished ⟨1, 0x80, 0xBF, value - 0xC0, 1⟩
  else if value = 0xE0 then .unfinished ⟨2, 0xA0, 0xBF, 0, 1⟩
  else if value = 0xED then .unfinished ⟨2, 0x80, 0x9F, 0xD, 1⟩
  else if value ≤ 0xEF then .unfinished ⟨2, 0x80, 0xBF, value - 0xE0, 1⟩
  else if value = 0xF0 then .unfinished ⟨3, 0x90, 0xBF, 0, 1⟩
  else if value ≤ 0xF3 then .unfinished ⟨3, 0x80, 0xBF, value - 0xF0, 1⟩
  else if value = 0xF4 then .unfinished ⟨3, 0x80, 0x8F, 4, 1⟩
  else .refused

/-- A further octet of a character. -/
def Pending.advance (pending : Pending) (octet : UInt8) : Progress :=
  let value := octet.toNat
  if pending.low ≤ value ∧ value ≤ pending.high then
    let bits := pending.bits * 64 + value % 64
    if pending.owed ≤ 1 then .complete (Char.ofNat bits)
    else .unfinished ⟨pending.owed - 1, 0x80, 0xBF, bits, pending.read + 1⟩
  else .refused

/-- Where and how octets fail to be UTF-8. -/
inductive Fault where
  /-- The sequence of `length` octets at `index` begins no character. -/
  | invalid (length index : Nat)
  /-- The octets end within the character that begins at `index`. -/
  | incomplete (index : Nat)
deriving DecidableEq, Repr

def Fault.message : Fault → String
  | .invalid length index =>
    "invalid utf-8 sequence of " ++ toString length ++ " bytes from index " ++ toString index
  | .incomplete index => "incomplete utf-8 byte sequence from index " ++ toString index

/-- Decodes octets, given the unfinished character before them and the index at which
the current character begins. -/
def decodeFrom (index : Nat) : Option Pending → Octets → Except Fault Text
  | none, [] => .ok []
  | some _, [] => .error (.incomplete index)
  | none, octet :: rest =>
    match begin octet with
    | .complete character => (decodeFrom (index + 1) none rest).map (character :: ·)
    | .unfinished pending => decodeFrom index (some pending) rest
    | .refused => .error (.invalid 1 index)
  | some pending, octet :: rest =>
    match pending.advance octet with
    | .complete character =>
      (decodeFrom (index + pending.read + 1) none rest).map (character :: ·)
    | .unfinished further => decodeFrom index (some further) rest
    | .refused => .error (.invalid pending.read index)

/-- The text of well-formed octets, or the first fault. -/
def decode (octets : Octets) : Except Fault Text :=
  decodeFrom 0 none octets

/-- Stands for octets that are not UTF-8. -/
def replacement : Char := '\ufffd'

/-- Decodes octets with a replacement character for each ill-formed sequence. An octet
that breaks off a character is read again as the beginning of the next one. -/
def decodeLossyFrom : Option Pending → Octets → Text
  | none, [] => []
  | some _, [] => [replacement]
  | none, octet :: rest =>
    match begin octet with
    | .complete character => character :: decodeLossyFrom none rest
    | .unfinished pending => decodeLossyFrom (some pending) rest
    | .refused => replacement :: decodeLossyFrom none rest
  | some pending, octet :: rest =>
    match pending.advance octet with
    | .complete character => character :: decodeLossyFrom none rest
    | .unfinished further => decodeLossyFrom (some further) rest
    | .refused =>
      match begin octet with
      | .complete character => replacement :: character :: decodeLossyFrom none rest
      | .unfinished further => replacement :: decodeLossyFrom (some further) rest
      | .refused => replacement :: replacement :: decodeLossyFrom none rest

/-- The text of octets, with a replacement character for each ill-formed sequence. -/
def decodeLossy (octets : Octets) : Text :=
  decodeLossyFrom none octets

def encode (text : Text) : Octets :=
  text.flatMap String.utf8EncodeChar

/-- The octets of a text, each as a character of its own. -/
def octetText (text : Text) : Text :=
  (encode text).map fun octet => Char.ofNat octet.toNat

def ofCharacters (characters : Text) : Octets :=
  characters.map fun character => UInt8.ofNat character.toNat

def toCharacters (octets : Octets) : Text :=
  octets.map fun octet => Char.ofNat octet.toNat

/-- How many octets a text takes. -/
def size (text : Text) : Nat :=
  text.foldr (fun character total => character.utf8Size + total) 0

end Utf8

end ScriptDesk

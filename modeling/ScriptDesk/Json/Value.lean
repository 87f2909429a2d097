import ScriptDesk.Json.Token

/-!
# Values

What a row of tokens describes, as far as it is well-formed. The containers that are open
are held in a list while tokens are read one after the other. A fault is kept at the
place where it was found: in place of a value, or at the end of a container whose closing
mark or next comma it replaces. So a reader that goes through a value from left to right
meets either what it does not want or the fault, whichever comes first in the text.
-/

namespace ScriptDesk.Json

/-- A value with its faults. -/
inductive Value where
  | null
  | boolean (value : Bool)
  | numeral (numeral : Numeral)
  | string (spelling : Spelling)
  | list (items : List Value) (fault : Option Fault)
  | record (members : List (Spelling × Value)) (fault : Option Fault)
  | broken (flaw : Flaw)

/-- A container that is open around the place where tokens are read. Items and members
are in reverse order. -/
inductive Enclosure where
  | list (items : List Value)
  | record (members : List (Spelling × Value)) (key : Spelling)

/-- What may come next, with the containers around it, the innermost first. -/
inductive Expectation where
  | wantValue (around : List Enclosure)
  | wantItemOrEnd (around : List Enclosure)
  | afterItem (items : List Value) (around : List Enclosure)
  | wantKeyOrEnd (around : List Enclosure)
  | wantKey (members : List (Spelling × Value)) (around : List Enclosure)
  | wantColon (members : List (Spelling × Value)) (key : Spelling) (around : List Enclosure)
  | afterMember (members : List (Spelling × Value)) (around : List Enclosure)
  /-- The value is complete. The flag says that more tokens follow it. -/
  | complete (value : Value) (more : Bool)

namespace Expectation

/-- Puts a complete value in its place. -/
def deliver (value : Value) : List Enclosure → Expectation
  | [] => .complete value false
  | .list items :: around => .afterItem (value :: items) around
  | .record members key :: around => .afterMember ((key, value) :: members) around

/-- A value in the containers around it, none of which is closed. -/
def enclose (fault : Fault) (value : Value) : List Enclosure → Value
  | [] => value
  | .list items :: around => enclose fault (.list (value :: items).reverse (some fault)) around
  | .record members key :: around =>
    enclose fault (.record ((key, value) :: members).reverse (some fault)) around

def giveUp (fault : Fault) : Expectation → Value
  | .wantValue around => enclose fault (.broken ⟨fault, fault⟩) around
  | .wantItemOrEnd around => enclose fault (.list [] (some fault)) around
  | .afterItem items around => enclose fault (.list items.reverse (some fault)) around
  | .wantKeyOrEnd around => enclose fault (.record [] (some fault)) around
  | .wantKey members around => enclose fault (.record members.reverse (some fault)) around
  | .wantColon members key around =>
    enclose fault
      (.record ((key, .broken ⟨fault, fault⟩) :: members).reverse (some fault)) around
  | .afterMember members around =>
    enclose fault (.record members.reverse (some fault)) around
  | .complete value _ => value

/-- A token that cannot come next. -/
def refuse (expectation : Expectation) : Expectation :=
  .complete (expectation.giveUp .malformed) false

def takeValue (around : List Enclosure) : Token → Expectation
  | .null => deliver .null around
  | .boolean value => deliver (.boolean value) around
  | .numeral numeral => deliver (.numeral numeral) around
  | .string spelling => deliver (.string spelling) around
  | .openBracket => .wantItemOrEnd around
  | .openBrace => .wantKeyOrEnd around
  | .broken flaw => .complete (enclose .malformed (.broken flaw) around) false
  | _ => refuse (.wantValue around)

def take (expectation : Expectation) (token : Token) : Expectation :=
  match expectation, token with
  | .wantValue around, token => takeValue around token
  | .wantItemOrEnd around, .closeBracket => deliver (.list [] none) around
  | .wantItemOrEnd around, token => takeValue (.list [] :: around) token
  | .afterItem items around, .comma => .wantValue (.list items :: around)
  | .afterItem items around, .closeBracket => deliver (.list items.reverse none) around
  | .wantKeyOrEnd around, .closeBrace => deliver (.record [] none) around
  | .wantKeyOrEnd around, .string key => .wantColon [] key around
  | .wantKey members around, .string key => .wantColon members key around
  | .wantColon members key around, .colon => .wantValue (.record members key :: around)
  | .afterMember members around, .comma => .wantKey members around
  | .afterMember members around, .closeBrace =>
    deliver (.record members.reverse none) around
  | .complete value _, _ => .complete value true
  | expectation, _ => refuse expectation

/-- The value when no more tokens come, and whether tokens followed it. -/
def conclude : Expectation → Value × Bool
  | .complete value more => (value, more)
  | expectation => (expectation.giveUp .unfinished, false)

end Expectation

/-- The value that tokens describe, and whether more tokens follow it. -/
def readValue (tokens : List Token) : Value × Bool :=
  (tokens.foldl Expectation.take (.wantValue [])).conclude

namespace Value

mutual

/-- The first fault of a value that is passed over. -/
def fault? : Value → Option Fault
  | .string spelling => spelling.fault
  | .list items fault => (itemsFault? items).or fault
  | .record members fault => (membersFault? members).or fault
  | .broken flaw => some flaw.skipped
  | _ => none

def itemsFault? : List Value → Option Fault
  | [] => none
  | item :: rest => (fault? item).or (itemsFault? rest)

/-- The first fault of members, the keys included. -/
def membersFault? : List (Spelling × Value) → Option Fault
  | [] => none
  | (key, value) :: rest => key.fault.or ((fault? value).or (membersFault? rest))

end

/-- The fault of a value where a value of another kind is wanted. -/
def mismatch : Value → Fault
  | .string spelling =>
    match spelling.text with
    | .ok _ => .unsuitable
    | .error fault => fault
  | .numeral number => if number.exceedsDouble then .malformed else .unsuitable
  | .broken flaw => flaw.wanted
  | _ => .unsuitable

def asText : Value → Except Fault Text
  | .string spelling => spelling.text
  | value => .error value.mismatch

def asTexts : Value → Except Fault (List Text)
  | .list items fault => do
    let texts ← items.mapM asText
    match fault with
    | none => return texts
    | some fault => throw fault
  | value => .error value.mismatch

/-- The value as a whole number that fits 64 bits, or as none where it is null. -/
def asCount : Value → Except Fault (Option Nat)
  | .null => .ok none
  | .numeral number =>
    match number.natural? with
    | some count => .ok (some count)
    | none => .error (mismatch (.numeral number))
  | value => .error value.mismatch

end Value

end ScriptDesk.Json

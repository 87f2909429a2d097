import ScriptDesk.Config
import ScriptDesk.Json.Value

/-!
# Configuration files

A configuration file is a JSON text with one member, which describes the interpreter. A
description is a record of named fields or the list of the fields in their order. Fields
that are left out have their built-in values, members of other names are passed over, and
a field that is given twice is refused.
-/

namespace ScriptDesk.Config

/-- The fields of a configuration. -/
inductive Field where
  | program
  | scriptArguments
  | extension
  | filePrefix
  | timeoutSeconds
deriving DecidableEq, Repr

namespace Field

def all : List Field :=
  [.program, .scriptArguments, .extension, .filePrefix, .timeoutSeconds]

def name : Field → Text
  | .program => "program".toList
  | .scriptArguments => "script_args".toList
  | .extension => "extension".toList
  | .filePrefix => "temp_prefix".toList
  | .timeoutSeconds => "timeout_secs".toList

def ofName? (text : Text) : Option Field :=
  all.find? fun field => field.name = text

def set (config : Config) (value : Json.Value) : Field → Except Json.Fault Config
  | .program => value.asText.map fun text => { config with program := text }
  | .scriptArguments => value.asTexts.map fun texts => { config with scriptArguments := texts }
  | .extension => value.asText.map fun text => { config with extension := text }
  | .filePrefix => value.asText.map fun text => { config with filePrefix := text }
  | .timeoutSeconds => value.asCount.map fun count => { config with timeoutSeconds := count }

end Field

/-- How a record is read: the fields that its names stand for, in the order in which a list
gives them, and what each of them does. -/
structure Shape (Label Target : Type) where
  labels : List Label
  ofName? : Text → Option Label
  set : Target → Json.Value → Label → Except Json.Fault Target

namespace Shape

variable {Label Target : Type} [DecidableEq Label]

/-- Reads the members of a record, given the fields that have been set. -/
def readMembers (shape : Shape Label Target) (seen : List Label) (target : Target) :
    List (Json.Spelling × Json.Value) → Except Json.Fault Target
  | [] => .ok target
  | (key, value) :: rest => do
    let name ← key.text
    match shape.ofName? name with
    | some label =>
      if label ∈ seen then throw .unsuitable
      else
        let next ← shape.set target value label
        shape.readMembers (label :: seen) next rest
    | none =>
      match value.fault? with
      | some fault => throw fault
      | none => shape.readMembers seen target rest

/-- Reads the items of a list into the fields. There may be fewer items than fields. -/
def readItems (shape : Shape Label Target) (target : Target) :
    List Label → List Json.Value → Except Json.Fault Target
  | _, [] => .ok target
  | [], _ :: _ => .error .malformed
  | label :: labels, value :: rest => do
    let next ← shape.set target value label
    shape.readItems next labels rest

def read (shape : Shape Label Target) (target : Target) :
    Json.Value → Except Json.Fault Target
  | .record members fault => do
    let result ← shape.readMembers [] target members
    match fault with
    | none => return result
    | some fault => throw fault
  | .list items fault => do
    let result ← shape.readItems target shape.labels items
    match fault with
    | none => return result
    | some fault => throw fault
  | value => .error value.mismatch

end Shape

def interpreterShape : Shape Field Config :=
  ⟨Field.all, Field.ofName?, Field.set⟩

def interpreterName : Text := "interpreter".toList

/-- A file as a whole. -/
def documentShape : Shape Unit Config where
  labels := [()]
  ofName? := fun name => if name = interpreterName then some () else none
  set := fun config value _ => interpreterShape.read config value

def decode (text : Text) : Except Json.Fault Config := do
  let (value, more) := Json.readValue (Json.tokens text)
  let config ← documentShape.read builtIn value
  if more then throw .malformed else return config

end ScriptDesk.Config

import ScriptDesk.Shell.Command
import ScriptDesk.Shell.Numeral

/-!
# Sums of the shell

Expressions over 64-bit numbers. A name stands for the number that its value spells, and
may be assigned to. Where the value of a part does not matter, the part is only read, so
that nothing in it is assigned and no division fails.
-/

namespace ScriptDesk.Shell.Arithmetic

/-- A lexeme of an expression. -/
inductive Lexeme where
  | number (value : Int)
  | name (name : Text)
  | operator (text : Text)
  /-- A character that has no meaning. -/
  | unknown
  | finish
deriving DecidableEq, Repr

/-- What is known while an expression is worked out: what is still to be read, and the
values that names have been given, the latest first. -/
structure Progress where
  rest : List Lexeme
  values : List (Text × Text)

/-- Working out an expression, which may fail with a message. -/
abbrev Working := StateT Progress (Except Text)

/-- What an expression is worked out in: its text, and the values of names. -/
structure Setting where
  text : Text
  value? : Text → Option Text
  isReadOnly : Text → Bool

/-- The operators, longer ones before their beginnings. -/
def operators : List Text :=
  ["<<=", ">>=", "&&", "||", "==", "!=", "<=", ">=", "<<", ">>", "+=", "-=", "*=", "/=",
    "%=", "&=", "|=", "^=", "+", "-", "*", "/", "%", "<", ">", "!", "~", "&", "|", "^", "(",
    ")", "?", ":", "="].map String.toList

/-- The lexemes of an expression. The bound is greater than its length. -/
def lexemes : Nat → Text → List Lexeme
  | 0, _ => []
  | _ + 1, [] => []
  | bound + 1, character :: rest =>
    if character = ' ' ∨ character = '\t' ∨ character = '\n' then lexemes bound rest
    else if character.isDigit then
      let found := Numeral.readUnsigned true false (character :: rest)
      .number found.value :: lexemes bound found.rest
    else if beginsName character then
      let text := character :: rest
      .name (text.takeWhile isNameChar) :: lexemes bound (text.dropWhile isNameChar)
    else
      match operators.findSome? fun operator =>
        (Text.dropLeading? operator (character :: rest)).map fun rest => (operator, rest) with
      | some (operator, rest) => .operator operator :: lexemes bound rest
      | none => [.unknown]

/-- How loosely an operator between two numbers binds. -/
def looseness? (operator : Text) : Option Nat :=
  [["*", "%", "/"], ["+", "-"], ["<<", ">>"], ["<", "<=", ">", ">="], ["==", "!="], ["&"],
    ["^"], ["|"]].findIdx? fun group => group.contains (String.ofList operator)

/-- A truth value as a number. -/
def truth (holds : Bool) : Int :=
  if holds then 1 else 0

/-- The number of a bit operation on two numbers. -/
def onBits (operation : UInt64 → UInt64 → UInt64) (left right : Int) : Int :=
  Numeral.wrap (operation (UInt64.ofInt left) (UInt64.ofInt right)).toNat

/-- By how many bits a number shifts. -/
def shiftOf (value : Int) : Nat :=
  (value % 64).toNat

/-- The result of an operator between two numbers. There is none for a division by zero. -/
def combine? (operator : Text) (left right : Int) : Option Int :=
  match String.ofList operator with
  | "|" => some (onBits UInt64.lor left right)
  | "^" => some (onBits UInt64.xor left right)
  | "&" => some (onBits UInt64.land left right)
  | "==" => some (truth (left = right))
  | "!=" => some (truth (left ≠ right))
  | "<" => some (truth (left < right))
  | ">" => some (truth (left > right))
  | "<=" => some (truth (left ≤ right))
  | ">=" => some (truth (left ≥ right))
  | "<<" => some (Numeral.wrap (left * Nat.pow 2 (shiftOf right)))
  | ">>" => some (left.fdiv (Nat.pow 2 (shiftOf right)))
  | "+" => some (Numeral.wrap (left + right))
  | "-" => some (Numeral.wrap (left - right))
  | "*" => some (Numeral.wrap (left * right))
  | "/" => if right = 0 then none else some (Numeral.wrap (left.tdiv right))
  | "%" => if right = 0 then none else some (Numeral.wrap (left.tmod right))
  | _ => none

/-- The operator that an assignment carries out before it assigns. -/
def assignment? (operator : Text) : Option (Option Text) :=
  match String.ofList operator with
  | "=" => some none
  | "+=" => some (some ['+'])
  | "-=" => some (some ['-'])
  | "*=" => some (some ['*'])
  | "/=" => some (some ['/'])
  | "%=" => some (some ['%'])
  | "&=" => some (some ['&'])
  | "|=" => some (some ['|'])
  | "^=" => some (some ['^'])
  | "<<=" => some (some ['<', '<'])
  | ">>=" => some (some ['>', '>'])
  | _ => none

/-- Gives up. -/
def fail {Value : Type} (setting : Setting) (words : String) : Working Value := fun _ =>
  .error ("arithmetic expression: ".toList ++ words.toList ++ ": \"".toList ++ setting.text ++
    ['"'])

/-- The next lexeme, which stays. -/
def peek : Working Lexeme := do
  return (← get).rest.headD .finish

/-- Leaves the next lexeme behind. -/
def advance : Working Unit :=
  modify fun progress => { progress with rest := progress.rest.drop 1 }

def valueOf (setting : Setting) (name : Text) : Working Int := do
  let text := (((← get).values.lookup name).or (setting.value? name)).getD []
  match Numeral.ofText? true text with
  | some value => return value
  | none => fun _ => .error (Numeral.illegal text)

def assign (setting : Setting) (name : Text) (value : Int) : Working Unit := fun progress =>
  if setting.isReadOnly name then .error (name ++ ": is read only".toList)
  else .ok ((), { progress with
    values := (name, Text.signedDecimal value) :: progress.values })

def combined (setting : Setting) (matters : Bool) (operator : Text) (left right : Int) :
    Working Int :=
  if matters = false then pure right
  else
    match combine? operator left right with
    | some value => pure value
    | none => fail setting "division by zero"

mutual

/-- The value of an expression. The bound limits how deep it is nested. -/
def expression : Nat → Setting → Bool → Working Int
  | 0, setting, _ => fail setting "expecting primary"
  | bound + 1, setting, matters => do
    match (← get).rest with
    | .name name :: .operator operator :: rest =>
      match assignment? operator with
      | some before =>
        modify fun progress => { progress with rest := rest }
        let right ← expression bound setting matters
        if matters = false then return right
        let value ←
          match before with
          | none => pure right
          | some operator =>
            combined setting true operator (← valueOf setting name) right
        assign setting name value
        return value
      | none => conditional bound setting matters
    | _ => conditional bound setting matters

/-- The value of a condition with its two branches, or of what has none. -/
def conditional : Nat → Setting → Bool → Working Int
  | 0, setting, _ => fail setting "expecting primary"
  | bound + 1, setting, matters => do
    let test ← disjunction bound setting matters
    if (← peek) ≠ .operator ['?'] then return test
    advance
    let yes ← expression bound setting (matters && test ≠ 0)
    if (← peek) ≠ .operator [':'] then fail setting "expecting ':'"
    advance
    let no ← conditional bound setting (matters && test = 0)
    return if test ≠ 0 then yes else no

/-- Whether one of several conditions holds. -/
def disjunction : Nat → Setting → Bool → Working Int
  | 0, setting, _ => fail setting "expecting primary"
  | bound + 1, setting, matters => do
    let first ← conjunction bound setting matters
    if (← peek) ≠ .operator ['|', '|'] then return first
    advance
    let others ← disjunction bound setting (matters && first = 0)
    return truth (first ≠ 0 ∨ others ≠ 0)

/-- Whether all of several conditions hold. -/
def conjunction : Nat → Setting → Bool → Working Int
  | 0, setting, _ => fail setting "expecting primary"
  | bound + 1, setting, matters => do
    let first ← operand bound setting matters
    let value ← operationsFrom bound setting matters 8 first
    if (← peek) ≠ .operator ['&', '&'] then return value
    advance
    let others ← conjunction bound setting (matters && value ≠ 0)
    return truth (value ≠ 0 ∧ others ≠ 0)

/-- The value of operations on a value that has been worked out. The operators bind more
tightly than given. -/
def operationsFrom : Nat → Setting → Bool → Nat → Int → Working Int
  | 0, setting, _, _, _ => fail setting "expecting primary"
  | bound + 1, setting, matters, limit, left => do
    match ← peek with
    | .operator operator =>
      match looseness? operator with
      | none => return left
      | some looseness =>
        if limit ≤ looseness then return left
        else
          advance
          let first ← operand bound setting matters
          let right ← operationsFrom bound setting matters looseness first
          let value ← combined setting matters operator left right
          operationsFrom bound setting matters limit value
    | _ => return left

/-- The value of a number, a name, or an expression in brackets, with signs in front. -/
def operand : Nat → Setting → Bool → Working Int
  | 0, setting, _ => fail setting "expecting primary"
  | bound + 1, setting, matters => do
    let lexeme ← peek
    advance
    match lexeme with
    | .number value => return value
    | .name name => if matters then valueOf setting name else return 0
    | .operator ['('] =>
      let value ← expression bound setting matters
      if (← peek) ≠ .operator [')'] then fail setting "expecting ')'"
      advance
      return value
    | .operator ['+'] => operand bound setting matters
    | .operator ['-'] => return Numeral.wrap (-(← operand bound setting matters))
    | .operator ['!'] => return truth ((← operand bound setting matters) = 0)
    | .operator ['~'] => return -(← operand bound setting matters) - 1
    | _ => fail setting "expecting primary"

end

/-- The value of an expression, and the values that names have been given. -/
def evaluate (setting : Setting) : Except Text (Int × List (Text × Text)) :=
  let found := lexemes (setting.text.length + 1) setting.text
  let whole : Working Int := do
    let value ← expression (16 * found.length + 16) setting true
    if (← peek) ≠ .finish then fail setting "expecting EOF" else return value
  (whole.run ⟨found, []⟩).map fun (value, progress) => (value, progress.values)

end ScriptDesk.Shell.Arithmetic

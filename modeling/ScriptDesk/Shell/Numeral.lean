import ScriptDesk.Text.Numeral

/-!
# Numbers of the shell

Numbers of 64 bits as the shell reads them: a sign may stand in front of the digits, and a
number that is too large counts as the greatest one.
-/

namespace ScriptDesk.Shell.Numeral

def greatest : Int := 9223372036854775807

def least : Int := -9223372036854775808

/-- A number in 64 bits. -/
def wrap (value : Int) : Int :=
  Int.bmod value Text.wordLimit

/-- Whether a character counts as a blank in front of a number. -/
def isBlank (character : Char) : Bool :=
  character = ' ' || (9 ≤ character.toNat && character.toNat ≤ 13)

/-- A number that has been read. -/
structure Read where
  value : Int
  /-- The number did not fit. -/
  isTooLarge : Bool
  /-- There was a digit. -/
  hasDigits : Bool
  rest : Text

def digit? (base : Nat) (character : Char) : Option Nat :=
  (Text.hexValue? character).filter (· < base)

def digitsIn (base : Nat) (text : Text) : Nat × Text :=
  let digits := text.takeWhile fun character => (digit? base character).isSome
  (digits.foldl (fun value digit => value * base + (digit? base digit).getD 0) 0,
    text.drop digits.length)

/-- A number with its sign, within what fits. -/
def bounded (negative : Bool) (size : Nat) (hasDigits : Bool) (rest : Text) : Read :=
  let value : Int := if negative then -(size : Int) else size
  if value < least then ⟨least, true, hasDigits, rest⟩
  else if greatest < value then ⟨greatest, true, hasDigits, rest⟩
  else ⟨value, false, hasDigits, rest⟩

/-- Reads a number without a sign. Where the base is open, the first digits tell it. -/
def readUnsigned (openBase negative : Bool) (text : Text) : Read :=
  let decimal :=
    let (size, rest) := digitsIn 10 text
    bounded negative size (rest.length < text.length) rest
  if openBase = false then decimal
  else
    match text with
    | '0' :: mark :: digits =>
      if mark = 'x' ∨ mark = 'X' then
        let (size, rest) := digitsIn 16 digits
        if rest.length < digits.length then bounded negative size true rest
        else ⟨0, false, true, mark :: digits⟩
      else
        let (size, rest) := digitsIn 8 (mark :: digits)
        bounded negative size true rest
    | _ => decimal

def read (openBase : Bool) (text : Text) : Read :=
  let trimmed := text.dropWhile isBlank
  let found :=
    match trimmed with
    | '-' :: digits => readUnsigned openBase true digits
    | '+' :: digits => readUnsigned openBase false digits
    | digits => readUnsigned openBase false digits
  if found.hasDigits then found else { found with rest := text }

/-- The number that a text is, blanks around it aside. Where the base is open, a blank text
is zero. -/
def ofText? (openBase : Bool) (text : Text) : Option Int :=
  let found := read openBase text
  if found.isTooLarge ∨ (openBase = false ∧ found.hasDigits = false) then none
  else if found.rest.all isBlank then some found.value
  else none

/-- The number of at most 31 bits that a text of digits is. -/
def ofDigits? (text : Text) : Option Nat :=
  if text.isEmpty ∨ text.all Char.isDigit = false then none
  else
    let value := Text.digitsValue text
    if value < 2147483648 then some value else none

/-- The words for a text that should be a number. -/
def illegal (text : Text) : Text :=
  "Illegal number: ".toList ++ text

end ScriptDesk.Shell.Numeral

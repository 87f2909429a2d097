import ScriptDesk.Shell.Numeral

/-!
# Binary fractions

Numbers of 53 significant bits, as they are read from decimal or hexadecimal text and
written in decimal: a number is rounded to the nearest one that there is, and to an even
one where two are equally near.
-/

namespace ScriptDesk.Shell

/-- A number: a sign, and an integer times a power of two. -/
inductive Real where
  | finite (negative : Bool) (significand : Nat) (exponent : Int)
  | infinite (negative : Bool)
  | undefined (negative : Bool)
deriving DecidableEq, Repr

namespace Real

/-- A quotient rounded to the nearest integer, and to the even one of two. -/
def roundedQuotient (numerator denominator : Nat) : Nat :=
  let whole := numerator / denominator
  let rest := 2 * (numerator % denominator)
  if rest < denominator then whole
  else if denominator < rest then whole + 1
  else if whole % 2 = 0 then whole
  else whole + 1

/-- A power of two as a numerator and a denominator. -/
def binaryPower (exponent : Int) : Nat × Nat :=
  if exponent < 0 then (1, Nat.pow 2 exponent.natAbs) else (Nat.pow 2 exponent.natAbs, 1)

/-- The number nearest to a quotient of positive integers. -/
def nearest (negative : Bool) (numerator denominator : Nat) : Real :=
  if numerator = 0 then .finite negative 0 0
  else
    let estimate : Int := (Nat.log2 numerator : Int) - Nat.log2 denominator - 52
    let exact (exponent : Int) : Nat :=
      let (upper, lower) := binaryPower exponent
      numerator * lower / (denominator * upper)
    let fitted :=
      if exact estimate < Nat.pow 2 52 then estimate - 1
      else if exact estimate < Nat.pow 2 53 then estimate
      else estimate + 1
    let exponent := max fitted (-1074)
    let (upper, lower) := binaryPower exponent
    let significand := roundedQuotient (numerator * lower) (denominator * upper)
    if 971 < exponent ∨ (exponent = 971 ∧ Nat.pow 2 53 ≤ significand) then .infinite negative
    else .finite negative significand exponent

/-- What has been read from the front of a text. -/
structure Reading where
  value : Real
  /-- The number was too large or too small. -/
  isOutOfRange : Bool
  rest : Text

/-- The number that digits with a point and an exponent to a base stand for. -/
def ofDigits (negative : Bool) (base : Nat) (digits : Text) (places : Nat) (scale : Nat)
    (exponent : Int) : Real × Bool :=
  let size := digits.foldl (fun value digit => value * base + (Text.hexValue? digit).getD 0) 0
  if size = 0 then (.finite negative 0 0, false)
  else if 5000 < exponent then (.infinite negative, true)
  else if exponent < -5000 - (digits.length * 4 : Nat) then (.finite negative 0 0, true)
  else
    let power := Nat.pow scale exponent.natAbs
    let below := Nat.pow base places
    let value :=
      if exponent < 0 then nearest negative size (below * power)
      else nearest negative (size * power) below
    let isSmall :=
      match value with
      | .finite _ significand _ => significand < Nat.pow 2 52
      | _ => true
    (value, isSmall)

def readExponent (letters : List Char) (text : Text) : Int × Text :=
  match text with
  | letter :: rest =>
    if letters.contains letter then
      let (negative, digits) :=
        match rest with
        | '-' :: digits => (true, digits)
        | '+' :: digits => (false, digits)
        | digits => (false, digits)
      let found := digits.takeWhile Char.isDigit
      if found.isEmpty then (0, text)
      else
        let size : Int := Text.digitsValue (found.take 9)
        (if negative then -size else size, digits.drop found.length)
    else (0, text)
  | [] => (0, [])

/-- Digits with a point among them: the digits, the number of those behind the point, and
what follows. -/
def readDigits (isDigit : Char → Bool) (text : Text) : Text × Nat × Text :=
  let whole := text.takeWhile isDigit
  match text.drop whole.length with
  | '.' :: rest =>
    let places := rest.takeWhile isDigit
    if whole.isEmpty ∧ places.isEmpty then ([], 0, text)
    else (whole ++ places, places.length, rest.drop places.length)
  | rest => (whole, 0, rest)

/-- What follows a word, whatever the size of its letters. -/
def dropWord? (word : String) (text : Text) : Option Text :=
  let length := word.length
  if (text.take length).map Char.toLower = word.toList then some (text.drop length) else none

/-- Reads a number without a sign. There may be none. -/
def readUnsigned (negative : Bool) (text : Text) : Option Reading :=
  match (dropWord? "infinity" text).or (dropWord? "inf" text), dropWord? "nan" text with
  | some rest, _ => some ⟨.infinite negative, false, rest⟩
  | none, some rest => some ⟨.undefined negative, false, rest⟩
  | none, none =>
    let hexadecimal :=
      match dropWord? "0x" text with
      | none => none
      | some behind =>
        let (digits, places, rest) := readDigits (fun digit => (Text.hexValue? digit).isSome) behind
        if digits.isEmpty then none
        else
          let (exponent, rest) := readExponent ['p', 'P'] rest
          let (value, isOut) := ofDigits negative 16 digits places 2 exponent
          some (Reading.mk value isOut rest)
    match hexadecimal with
    | some reading => some reading
    | none =>
      let (digits, places, rest) := readDigits Char.isDigit text
      if digits.isEmpty then none
      else
        let (exponent, rest) := readExponent ['e', 'E'] rest
        let (value, isOut) := ofDigits negative 10 digits places 10 exponent
        some ⟨value, isOut, rest⟩

/-- Reads a number from the front of a text. Where there is none, nothing is read. -/
def read (text : Text) : Reading :=
  let trimmed := text.dropWhile Numeral.isBlank
  let found :=
    match trimmed with
    | '-' :: rest => readUnsigned true rest
    | '+' :: rest => readUnsigned false rest
    | rest => readUnsigned false rest
  found.getD ⟨.finite false 0 0, false, text⟩

/-- Whether the number has a minus sign. -/
def isNegative : Real → Bool
  | .finite negative _ _ => negative
  | .infinite negative => negative
  | .undefined negative => negative

/-- The value times a power of ten, rounded to an integer. -/
def scaled (significand : Nat) (exponent : Int) (power : Int) : Nat :=
  let (upper, lower) := binaryPower exponent
  if power < 0 then roundedQuotient (significand * upper) (lower * Nat.pow 10 power.natAbs)
  else roundedQuotient (significand * upper * Nat.pow 10 power.natAbs) lower

/-- Digits with a point in front of the last ones. -/
def withPoint (digits : Text) (places : Nat) (keepsPoint : Bool) : Text :=
  let padded := List.replicate (places + 1 - digits.length) '0' ++ digits
  let whole := padded.take (padded.length - places)
  if places = 0 ∧ keepsPoint = false then whole else whole ++ '.' :: padded.drop whole.length

/-- The number with as many digits behind the point as given. -/
def fixed (significand : Nat) (exponent : Int) (places : Nat) (keepsPoint : Bool) : Text :=
  withPoint (Text.decimal (scaled significand exponent places)) places keepsPoint

/-- The power of ten of the first digit, and the digits of the number, of which there are
one more than given. -/
def leading (significand : Nat) (exponent : Int) (places : Nat) : Int × Text :=
  if significand = 0 then (0, List.replicate (places + 1) '0')
  else
    let (upper, lower) := binaryPower exponent
    let numerator := significand * upper
    let reaches (power : Int) : Bool :=
      if power < 0 then lower ≤ numerator * Nat.pow 10 power.natAbs
      else lower * Nat.pow 10 power.natAbs ≤ numerator
    let estimate : Int :=
      (Text.decimal numerator).length - (Text.decimal lower).length
    let power := if reaches estimate then estimate else estimate - 1
    let digits := Text.decimal (scaled significand exponent (places - power))
    if places + 1 < digits.length then (power + 1, digits.take (places + 1)) else (power, digits)

/-- An exponent with its sign and at least two digits. -/
def exponentText (power : Int) : Text :=
  let digits := Text.decimal power.natAbs
  (if power < 0 then '-' else '+') :: (List.replicate (2 - digits.length) '0' ++ digits)

/-- The number with one digit in front of the point, and an exponent. -/
def exponential (significand : Nat) (exponent : Int) (places : Nat) (keepsPoint : Bool) : Text :=
  let (power, digits) := leading significand exponent places
  withPoint digits places keepsPoint ++ 'e' :: exponentText power

/-- A text with a point without the zeros at its end. -/
def withoutZeros (text : Text) : Text :=
  if text.contains '.' then Text.dropTrailing (· = '.') (Text.dropTrailing (· = '0') text)
  else text

/-- The number with as many significant digits as given, in the shorter of two forms. -/
def general (significand : Nat) (exponent : Int) (digits : Nat) (keepsZeros : Bool) : Text :=
  let wanted := max digits 1
  let (power, _) := leading significand exponent (wanted - 1)
  if power < -4 ∨ (wanted : Int) ≤ power then
    let text := exponential significand exponent (wanted - 1) keepsZeros
    if keepsZeros then text
    else withoutZeros (text.takeWhile (· ≠ 'e')) ++ text.dropWhile (· ≠ 'e')
  else
    let places := ((wanted : Int) - 1 - power).toNat
    let text := fixed significand exponent places keepsZeros
    if keepsZeros then text else withoutZeros text

/-- The number in hexadecimal, with a power of two. -/
def hexadecimal (significand : Nat) (exponent : Int) (places : Option Nat)
    (keepsPoint : Bool) : Text :=
  if significand = 0 then
    "0x".toList ++ withPoint ['0'] (places.getD 0) keepsPoint ++ "p+0".toList
  else
    let length := Nat.log2 significand
    let aligned := significand * Nat.pow 2 (52 - length)
    let power := exponent + length
    let kept := (places.getD 13)
    let rounded :=
      if kept < 13 then roundedQuotient aligned (Nat.pow 16 (13 - kept))
      else aligned * Nat.pow 16 (kept - 13)
    let text := withPoint (Text.hexadecimal rounded) kept keepsPoint
    let shown := if places.isNone then withoutZeros text else text
    let sign := if power < 0 then '-' else '+'
    "0x".toList ++ shown ++ 'p' :: sign :: Text.decimal power.natAbs

end Real

end ScriptDesk.Shell

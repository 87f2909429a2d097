import ScriptDesk.Json.Spelling

/-!
# Numbers as they are written

A number of a JSON text is kept as its digits. Wanted are whole numbers that fit 64 bits
and are written as such; any other number is only checked. A number that is passed over
may be of any size. One that is wanted may not exceed the numbers of double precision, and
the end of the text within it counts as a text that ends too early.
-/

namespace ScriptDesk.Json

/-- What is wrong with something that is no value: its fault where a value is wanted, and
its fault where a value is passed over. -/
structure Flaw where
  wanted : Fault
  skipped : Fault
deriving DecidableEq, Repr

/-- A number as it is written: its sign, the digits of its parts, and the sign of its
exponent. -/
structure Numeral where
  negative : Bool
  whole : Text
  fraction : Option Text
  exponent : Option (Bool × Text)
deriving DecidableEq, Repr

namespace Numeral

/-- The flaw of a number that lacks a digit in front of the given text. -/
def lacksDigit (rest : Text) : Flaw :=
  ⟨if rest.isEmpty then .unfinished else .malformed, .malformed⟩

/-- Digits at the beginning of a text, of which there must be one, and what follows. -/
def scanDigits (text : Text) : Except Flaw (Text × Text) :=
  let digits := text.takeWhile Text.isAsciiDigit
  if digits.isEmpty then .error (lacksDigit text)
  else .ok (digits, text.dropWhile Text.isAsciiDigit)

/-- A sign at the beginning of a text, if it is negative, and what follows. -/
def scanMinus : Text → Bool × Text
  | '-' :: rest => (true, rest)
  | text => (false, text)

/-- The sign of an exponent, if it is negative, and what follows. -/
def scanSign : Text → Bool × Text
  | '+' :: rest => (false, rest)
  | text => scanMinus text

/-- The digits of the whole part. Only zero itself begins with a zero. -/
def scanWhole (text : Text) : Except Flaw (Text × Text) := do
  let (digits, rest) ← scanDigits text
  if digits.length ≠ 1 ∧ digits.head? = some '0' then .error ⟨.malformed, .malformed⟩
  else .ok (digits, rest)

def scanFraction : Text → Except Flaw (Option Text × Text)
  | '.' :: rest => (scanDigits rest).map fun (digits, rest) => (some digits, rest)
  | text => .ok (none, text)

def isExponentMark (character : Char) : Bool :=
  character = 'e' || character = 'E'

def scanExponent : Text → Except Flaw (Option (Bool × Text) × Text)
  | [] => .ok (none, [])
  | character :: rest =>
    if isExponentMark character then
      let (negative, unsigned) := scanSign rest
      (scanDigits unsigned).map fun (digits, rest) => (some (negative, digits), rest)
    else .ok (none, character :: rest)

/-- Reads a number, and gives what follows it. -/
def scan (text : Text) : Except Flaw (Numeral × Text) := do
  let (negative, unsigned) := scanMinus text
  let (whole, afterWhole) ← scanWhole unsigned
  let (fraction, afterFraction) ← scanFraction afterWhole
  let (exponent, rest) ← scanExponent afterFraction
  .ok (⟨negative, whole, fraction, exponent⟩, rest)

/-- The value of a whole number that is not negative and fits 64 bits. -/
def natural? (numeral : Numeral) : Option Nat :=
  if numeral.negative = false ∧ numeral.fraction = none ∧ numeral.exponent = none then
    Text.readDigits? numeral.whole
  else none

def exponentValue : Option (Bool × Text) → Int
  | none => 0
  | some (true, digits) => -(Text.digitsValue digits : Int)
  | some (false, digits) => Text.digitsValue digits

/-- A number with the digits of a text appended to it, as long as it fits 64 bits, and the
digits that are left over. -/
def appendDigits (value : Nat) : Text → Nat × Text
  | [] => (value, [])
  | digit :: rest =>
    let longer := value * 10 + Text.digitValue digit
    if longer < Text.wordLimit then appendDigits longer rest else (value, digit :: rest)

/-- A whole number in double precision: the nearest of those with 53 binary digits, and of
two the even one. -/
def toDouble (number : Nat) : Nat :=
  let unit := Nat.pow 2 (number.log2 + 1 - 53)
  let below := number / unit
  let beyond := 2 * (number % unit)
  if unit < beyond ∨ (beyond = unit ∧ below % 2 = 1) then (below + 1) * unit
  else below * unit

/-- The least number that rounds to infinity in double precision. -/
def doubleLimit : Nat := Nat.pow 2 1024 - Nat.pow 2 970

/-- The greatest exponent of a power of ten in double precision. -/
def greatestExponent : Int := 308

/-- Whether a number exceeds double precision when its leading digits, as many as fit 64
bits, are multiplied by a power of ten, both in double precision. -/
def exceedsDouble (numeral : Numeral) : Bool :=
  let (leading, skippedWhole) := appendDigits 0 numeral.whole
  let fraction := numeral.fraction.getD []
  let (leading, skippedFraction) := appendDigits leading fraction
  let exponent := exponentValue numeral.exponent + skippedWhole.length -
    (fraction.length - skippedFraction.length)
  if leading = 0 ∨ exponent < 0 then false
  else if greatestExponent < exponent then true
  else doubleLimit ≤ toDouble leading * toDouble (Nat.pow 10 exponent.toNat)

theorem length_dropWhile_lt {text : Text} (found : text.takeWhile Text.isAsciiDigit ≠ []) :
    (text.dropWhile Text.isAsciiDigit).length < text.length := by
  have parts :=
    congrArg List.length (@List.takeWhile_append_dropWhile _ Text.isAsciiDigit text)
  have positive := List.length_pos_iff.mpr found
  simp only [List.length_append] at parts
  omega

theorem length_scanDigits_lt {text digits rest : Text}
    (scanned : scanDigits text = .ok (digits, rest)) : rest.length < text.length := by
  unfold scanDigits at scanned
  dsimp only at scanned
  split at scanned
  · simp at scanned
  · rename_i found
    simp only [Except.ok.injEq, Prod.mk.injEq] at scanned
    rw [← scanned.2]
    exact length_dropWhile_lt (by simpa [List.isEmpty_iff] using found)

theorem length_scanMinus_le (text : Text) : (scanMinus text).2.length ≤ text.length := by
  unfold scanMinus
  split <;> simp

theorem length_scanSign_le (text : Text) : (scanSign text).2.length ≤ text.length := by
  unfold scanSign
  split
  · simp
  · exact length_scanMinus_le _

theorem length_scanWhole_lt {text digits rest : Text}
    (scanned : scanWhole text = .ok (digits, rest)) : rest.length < text.length := by
  unfold scanWhole at scanned
  cases first : scanDigits text with
  | error flaw => simp [first, bind, Except.bind] at scanned
  | ok pair =>
    obtain ⟨found, after⟩ := pair
    simp only [first, bind, Except.bind] at scanned
    split at scanned
    · simp at scanned
    · simp only [Except.ok.injEq, Prod.mk.injEq] at scanned
      rw [← scanned.2]
      exact length_scanDigits_lt first

theorem length_scanFraction_le {text rest : Text} {fraction : Option Text}
    (scanned : scanFraction text = .ok (fraction, rest)) : rest.length ≤ text.length := by
  unfold scanFraction at scanned
  split at scanned
  · rename_i after
    cases first : scanDigits after with
    | error flaw => simp [first, Except.map] at scanned
    | ok pair =>
      simp only [first, Except.map, Except.ok.injEq, Prod.mk.injEq] at scanned
      have shorter : pair.2.length < after.length := length_scanDigits_lt first
      rw [← scanned.2]
      simp only [List.length_cons]
      omega
  · simp only [Except.ok.injEq, Prod.mk.injEq] at scanned
    exact Nat.le_of_eq (congrArg List.length scanned.2.symm)

theorem length_scanExponent_le {text rest : Text} {exponent : Option (Bool × Text)}
    (scanned : scanExponent text = .ok (exponent, rest)) : rest.length ≤ text.length := by
  unfold scanExponent at scanned
  split at scanned
  · simp only [Except.ok.injEq, Prod.mk.injEq] at scanned
    exact Nat.le_of_eq (congrArg List.length scanned.2.symm)
  · rename_i character after
    split at scanned
    · dsimp only at scanned
      cases first : scanDigits (scanSign after).2 with
      | error flaw => simp [first, Except.map] at scanned
      | ok pair =>
        simp only [first, Except.map, Except.ok.injEq, Prod.mk.injEq] at scanned
        have shorter : pair.2.length < (scanSign after).2.length := length_scanDigits_lt first
        have within := length_scanSign_le after
        rw [← scanned.2]
        simp only [List.length_cons]
        omega
    · simp only [Except.ok.injEq, Prod.mk.injEq] at scanned
      exact Nat.le_of_eq (congrArg List.length scanned.2.symm)

/-- What follows a number is shorter than what it was read from. -/
theorem length_scan_lt {text rest : Text} {numeral : Numeral}
    (scanned : scan text = .ok (numeral, rest)) : rest.length < text.length := by
  unfold scan at scanned
  have sign := length_scanMinus_le text
  cases first : scanWhole (scanMinus text).2 with
  | error flaw => simp [first, bind, Except.bind] at scanned
  | ok whole =>
    have afterWhole : whole.2.length < (scanMinus text).2.length := length_scanWhole_lt first
    cases second : scanFraction whole.2 with
    | error flaw => simp [first, second, bind, Except.bind] at scanned
    | ok fraction =>
      have afterFraction : fraction.2.length ≤ whole.2.length := length_scanFraction_le second
      cases third : scanExponent fraction.2 with
      | error flaw => simp [first, second, third, bind, Except.bind] at scanned
      | ok exponent =>
        have afterExponent : exponent.2.length ≤ fraction.2.length :=
          length_scanExponent_le third
        simp only [first, second, third, bind, Except.bind, Except.ok.injEq,
          Prod.mk.injEq] at scanned
        rw [← scanned.2]
        omega

end Numeral

end ScriptDesk.Json

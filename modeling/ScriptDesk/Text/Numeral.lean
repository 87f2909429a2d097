import ScriptDesk.Text.Basic

/-!
# Decimal numerals

Writing numbers in decimal and reading unsigned 64-bit numbers back. Reading what was
written gives the number.
-/

namespace ScriptDesk.Text

/-- One more than the greatest number that fits 64 bits. -/
def wordLimit : Nat := 18446744073709551616

/-- The ASCII digit of a number below ten. -/
def digitChar (digit : Nat) : Char :=
  Char.ofNat (48 + digit)

/-- A number in decimal, without leading zeros. -/
def decimal (number : Nat) : Text :=
  if number < 10 then [digitChar number]
  else decimal (number / 10) ++ [digitChar (number % 10)]
termination_by number
decreasing_by omega

def signedDecimal : Int → Text
  | .ofNat number => decimal number
  | .negSucc predecessor => '-' :: decimal (predecessor + 1)

def isAsciiDigit (character : Char) : Bool :=
  48 ≤ character.toNat && character.toNat ≤ 57

def digitValue (digit : Char) : Nat :=
  digit.toNat - 48

/-- The number that a row of ASCII digits stands for. -/
def digitsValue (digits : Text) : Nat :=
  digits.foldl (fun value digit => value * 10 + digitValue digit) 0

/-- A number of at least one ASCII digit and below 2^64. Leading zeros are accepted. -/
def readDigits? (text : Text) : Option Nat :=
  if text ≠ [] ∧ text.all isAsciiDigit = true ∧ digitsValue text < wordLimit then
    some (digitsValue text)
  else none

/-- A number below 2^64 of ASCII digits, which a plus sign may precede. -/
def readWord? (text : Text) : Option Nat :=
  match text with
  | '+' :: digits => readDigits? digits
  | _ => readDigits? text

/-- The ASCII hexadecimal value of a digit. -/
def hexValue? (character : Char) : Option Nat :=
  let code := character.toNat
  if 48 ≤ code ∧ code ≤ 57 then some (code - 48)
  else if 97 ≤ code ∧ code ≤ 102 then some (code - 87)
  else if 65 ≤ code ∧ code ≤ 70 then some (code - 55)
  else none

/-- The lower-case hexadecimal digit of a number below sixteen. -/
def hexChar (digit : Nat) : Char :=
  Char.ofNat (if digit < 10 then 48 + digit else 87 + digit)

/-- A number in lower-case hexadecimal, without leading zeros. -/
def hexadecimal (number : Nat) : Text :=
  if number < 16 then [hexChar number]
  else hexadecimal (number / 16) ++ [hexChar (number % 16)]
termination_by number
decreasing_by omega

theorem digitChar_toNat {digit : Nat} (small : digit < 10) :
    (digitChar digit).toNat = 48 + digit := by
  have cases : digit = 0 ∨ digit = 1 ∨ digit = 2 ∨ digit = 3 ∨ digit = 4 ∨
      digit = 5 ∨ digit = 6 ∨ digit = 7 ∨ digit = 8 ∨ digit = 9 := by omega
  rcases cases with h | h | h | h | h | h | h | h | h | h <;> subst h <;> rfl

theorem isAsciiDigit_digitChar {digit : Nat} (small : digit < 10) :
    isAsciiDigit (digitChar digit) = true := by
  simp only [isAsciiDigit, digitChar_toNat small, Bool.and_eq_true, decide_eq_true_eq]
  omega

theorem digitValue_digitChar {digit : Nat} (small : digit < 10) :
    digitValue (digitChar digit) = digit := by
  simp [digitValue, digitChar_toNat small]

theorem digitsValue_append_digit (digits : Text) (digit : Char) :
    digitsValue (digits ++ [digit]) = digitsValue digits * 10 + digitValue digit := by
  simp [digitsValue, List.foldl_append]

theorem decimal_ne_nil (number : Nat) : decimal number ≠ [] := by
  unfold decimal
  split <;> simp

theorem all_isAsciiDigit_decimal (number : Nat) : (decimal number).all isAsciiDigit = true := by
  fun_induction decimal number with
  | case1 number small => simp [isAsciiDigit_digitChar small]
  | case2 number large earlier =>
    have last : isAsciiDigit (digitChar (number % 10)) = true :=
      isAsciiDigit_digitChar (by omega)
    simp [List.all_append, earlier, last]

theorem digitsValue_decimal (number : Nat) : digitsValue (decimal number) = number := by
  fun_induction decimal number with
  | case1 number small =>
    simp [digitsValue, digitValue_digitChar small]
  | case2 number large earlier =>
    have last : digitValue (digitChar (number % 10)) = number % 10 :=
      digitValue_digitChar (by omega)
    rw [digitsValue_append_digit, earlier, last]
    omega

/-- The decimal numeral of a number below 2^64 reads back as that number. -/
theorem readDigits?_decimal {number : Nat} (fits : number < wordLimit) :
    readDigits? (decimal number) = some number := by
  simp [readDigits?, decimal_ne_nil, all_isAsciiDigit_decimal, digitsValue_decimal, fits]

/-- The decimal numeral of a number that does not fit 64 bits is refused. -/
theorem readDigits?_decimal_eq_none {number : Nat} (large : wordLimit ≤ number) :
    readDigits? (decimal number) = none := by
  have refused : ¬ number < wordLimit := by omega
  simp [readDigits?, digitsValue_decimal, refused]

end ScriptDesk.Text

import ScriptDesk.Text.Numeral

/-!
# Decimal numerals as rows of digits

The decimal numeral of a number is its row of digits in base ten.  A greater number never
has fewer digits.
-/

namespace ScriptDesk

namespace Text

theorem digitChar_eq {digit : Nat} (small : digit < 10) :
    digitChar digit = digit.digitChar := by
  rw [digitChar, ← Nat.toNat_digitChar_of_lt_ten small, Char.ofNat_toNat]

theorem decimal_eq_toDigits (number : Nat) : decimal number = Nat.toDigits 10 number := by
  fun_induction decimal number with
  | case1 number small => rw [digitChar_eq small, Nat.toDigits_of_lt_base small]
  | case2 number large induction =>
      rw [induction, digitChar_eq (Nat.mod_lt number (by decide)),
        Nat.toDigits_of_base_le (by decide) (Nat.le_of_not_lt large)]

theorem length_toDigits_mono {number greater : Nat} (le : number ≤ greater) :
    (Nat.toDigits 10 number).length ≤ (Nat.toDigits 10 greater).length := by
  have below : greater < 10 ^ (Nat.toDigits 10 greater).length :=
    (Nat.length_toDigits_le_iff (by decide) Nat.length_toDigits_pos).mp (Nat.le_refl _)
  rw [Nat.length_toDigits_le_iff (by decide) Nat.length_toDigits_pos]
  exact Nat.lt_of_le_of_lt le below

end Text

end ScriptDesk

import Mathlib.Data.List.Induction
import Mathlib.Data.Nat.Digits.Defs
import Mathlib.Tactic.Ring
import ScriptDesk.Text.Blank
import ScriptDesk.Text.Numeral

/-!
# Trimmed texts and the numbers in them

A text is cut in three: white space, a core that neither begins nor ends with white space,
and white space.  The core is what trimming leaves.  A number is read from a row of ASCII
digits by its value in base ten.
-/

namespace ScriptDesk.Text

variable {test : Char → Bool} {text core rest digits : Text} {number : Nat}

theorem dropWhile_eq_iff :
    text.dropWhile test = rest ↔
      ∃ before, text = before ++ rest ∧ (∀ character ∈ before, test character = true) ∧
        ∀ character, rest.head? = some character → test character = false := by
  constructor
  · rintro rfl
    refine ⟨text.takeWhile test, List.takeWhile_append_dropWhile.symm, ?_, ?_⟩
    · intro character member
      exact List.all_eq_true.mp List.all_takeWhile character member
    · intro character first
      have refused := List.head?_dropWhile_not test text
      rw [first] at refused
      simpa using refused
  · rintro ⟨before, rfl, dropped, first⟩
    rw [List.dropWhile_append_of_pos dropped]
    cases rest with
    | nil => rfl
    | cons character rest =>
        have kept : test character = false := first character rfl
        rw [List.dropWhile_cons_of_neg (by simp [kept])]

theorem dropTrailing_eq_iff :
    text.dropTrailing test = rest ↔
      ∃ after, text = rest ++ after ∧ (∀ character ∈ after, test character = true) ∧
        ∀ character, rest.getLast? = some character → test character = false := by
  unfold dropTrailing
  rw [List.reverse_eq_iff, dropWhile_eq_iff]
  constructor
  · rintro ⟨before, split, dropped, last⟩
    refine ⟨before.reverse, ?_, ?_, ?_⟩
    · rw [List.reverse_eq_iff] at split
      simpa using split
    · simpa using dropped
    · simpa using last
  · rintro ⟨after, rfl, dropped, last⟩
    refine ⟨after.reverse, by simp, ?_, ?_⟩
    · simpa using dropped
    · simpa using last

/-- The core of a text is what stands between white space. -/
structure Core (text core : Text) : Prop where
  split : ∃ before after, text = before ++ core ++ after ∧
    (∀ character ∈ before, isBlank character = true) ∧
    ∀ character ∈ after, isBlank character = true
  first : ∀ character, core.head? = some character → isBlank character = false
  last : ∀ character, core.getLast? = some character → isBlank character = false

theorem core_trim (text : Text) : Core text (trim text) := by
  obtain ⟨before, split, blankBefore, first⟩ :=
    dropWhile_eq_iff.mp (Eq.refl (text.dropWhile isBlank))
  obtain ⟨after, innerSplit, blankAfter, last⟩ := dropTrailing_eq_iff.mp (Eq.refl (trim text))
  refine ⟨⟨before, after, ?_, blankBefore, blankAfter⟩, ?_, last⟩
  · rw [List.append_assoc, ← innerSplit]
    exact split
  · intro character isFirst
    apply first
    rw [innerSplit, List.head?_append, isFirst]
    rfl

theorem Core.trim_eq (isCore : Core text core) : trim text = core := by
  obtain ⟨before, after, rfl, blankBefore, blankAfter⟩ := isCore.split
  have trailing : (core ++ after).dropTrailing isBlank = core :=
    dropTrailing_eq_iff.mpr ⟨after, rfl, blankAfter, isCore.last⟩
  cases core with
  | nil =>
      have blank : ∀ character ∈ before ++ [] ++ after, isBlank character = true := by
        intro character member
        rcases List.mem_append.mp member with leading | following
        · exact blankBefore character (by simpa using leading)
        · exact blankAfter character following
      have nothing : (before ++ [] ++ after).dropWhile isBlank = [] :=
        dropWhile_eq_iff.mpr ⟨_, (List.append_nil _).symm, blank, by simp⟩
      unfold trim
      rw [nothing]
      rfl
  | cons first inner =>
      have leading : (before ++ (first :: inner) ++ after).dropWhile isBlank =
          (first :: inner) ++ after :=
        dropWhile_eq_iff.mpr
          ⟨before, List.append_assoc _ _ _, blankBefore, by simpa using isCore.first⟩
      unfold trim
      rw [leading, trailing]

theorem Core.self (isCore : Core text core) : Core core core :=
  ⟨⟨[], [], by simp, nofun, nofun⟩, isCore.first, isCore.last⟩

/-- A core does not end in white space. -/
theorem Core.eq_nil_of_blank {front back : Text} (isCore : Core text (front ++ back))
    (blank : ∀ character ∈ back, isBlank character = true) : back = [] := by
  rcases List.eq_nil_or_concat back with rfl | ⟨inner, last, rfl⟩
  · rfl
  · have kept := isCore.last last (by simp)
    rw [blank last (by simp)] at kept
    cases kept

theorem digitsValue_eq_ofDigits (digits : Text) :
    digitsValue digits = Nat.ofDigits 10 (digits.reverse.map digitValue) := by
  induction digits using List.reverseRecOn with
  | nil => rfl
  | append_singleton digits digit induction =>
      rw [digitsValue_append_digit, induction, List.reverse_concat, List.map_cons,
        Nat.ofDigits_cons]
      ring

/-- A row of ASCII digits stands for a number that fits 64 bits. -/
structure Digits (digits : Text) (number : Nat) : Prop where
  nonempty : digits ≠ []
  ascii : ∀ digit ∈ digits, digit.isDigit = true
  value : Nat.ofDigits 10 (digits.reverse.map fun digit => digit.toNat - '0'.toNat) = number
  fits : number < 2 ^ 64

/-- Digits, which a plus sign may precede. -/
def Word (text : Text) (number : Nat) : Prop :=
  ∃ digits, (text = digits ∨ text = '+' :: digits) ∧ Digits digits number

theorem readDigits?_eq_some_iff : readDigits? digits = some number ↔ Digits digits number := by
  have value : digitsValue digits =
      Nat.ofDigits 10 (digits.reverse.map fun digit => digit.toNat - '0'.toNat) :=
    digitsValue_eq_ofDigits digits
  unfold readDigits?
  rw [Option.ite_none_right_eq_some, Option.some.injEq]
  constructor
  · rintro ⟨⟨nonempty, ascii, fits⟩, same⟩
    rw [same] at fits
    exact ⟨nonempty, List.all_eq_true.mp ascii, value.symm.trans same, fits⟩
  · intro row
    have same : digitsValue digits = number := value.trans row.value
    refine ⟨⟨row.nonempty, List.all_eq_true.mpr row.ascii, ?_⟩, same⟩
    rw [same]
    exact row.fits

theorem readWord?_eq_some_iff : readWord? text = some number ↔ Word text number := by
  unfold readWord?
  split
  · rename_i digits
    rw [readDigits?_eq_some_iff]
    constructor
    · intro row
      exact ⟨digits, .inr rfl, row⟩
    · rintro ⟨other, rfl | same, row⟩
      · have digit := row.ascii '+' List.mem_cons_self
        cases digit
      · rw [(List.cons.inj same).2]
        exact row
  · rename_i unsigned
    rw [readDigits?_eq_some_iff]
    constructor
    · intro row
      exact ⟨text, .inl rfl, row⟩
    · rintro ⟨other, rfl | rfl, row⟩
      · exact row
      · exact absurd rfl (unsigned other)

theorem readWord?_eq_none_iff : readWord? text = none ↔ ∀ number, ¬ Word text number := by
  simp only [Option.eq_none_iff_forall_ne_some, ne_eq, readWord?_eq_some_iff]

end ScriptDesk.Text

import Mathlib.Data.Nat.Digits.Defs
import ScriptDesk.Proofs.Diagnostic.Search
import ScriptDesk.Proofs.Text.Trimming

/-!
# What the grammar recognises

A text has a diagnostic exactly if the decomposition that counts has numbers
that can be read.  What the numbers are is said with the value of a row of
digits in base ten, and what the message is with the carriage returns that
follow it.
-/

namespace ScriptDesk

namespace Diagnostic

/-- The number that a row of ASCII digits stands for, if it counts from one and fits 64
bits. -/
structure Ordinal (digits : Text) (number : Nat) : Prop where
  ascii : ∀ digit ∈ digits, digit.isDigit = true
  value : Nat.ofDigits 10 (digits.reverse.map fun digit => digit.toNat - '0'.toNat) = number
  positive : 1 ≤ number
  fits : number ≤ 2 ^ 64 - 1

/-- The message without the carriage returns at its end. -/
structure WithoutReturns (written message : Text) : Prop where
  written_eq : ∃ count, written = message ++ List.replicate count '\r'
  last_ne : message.getLast? ≠ some '\r'

theorem readOrdinal?_eq_some_iff {digits : Text} {number : Nat} :
    readOrdinal? digits = some number ↔ Ordinal digits number := by
  simp only [readOrdinal?, Option.filter_eq_some_iff, Text.readDigits?_eq_some_iff,
    decide_eq_true_eq]
  constructor
  · rintro ⟨row, positive⟩
    exact ⟨row.ascii, row.value, positive, Nat.le_sub_one_of_lt row.fits⟩
  · intro ordinal
    have nonempty : digits ≠ [] := by
      rintro rfl
      have positive := ordinal.positive
      rw [← ordinal.value] at positive
      cases positive
    have fits : number < 2 ^ 64 := Nat.lt_of_le_sub_one (by decide) ordinal.fits
    exact ⟨⟨nonempty, ordinal.ascii, ordinal.value, fits⟩, ordinal.positive⟩

theorem dropTrailing_eq_iff {written message : Text} :
    Text.dropTrailing (· = '\r') written = message ↔ WithoutReturns written message := by
  rw [Text.dropTrailing_eq_iff]
  constructor
  · rintro ⟨after, split, returns, last⟩
    have same : ∀ character ∈ after, character = '\r' :=
      fun character member => of_decide_eq_true (returns character member)
    refine ⟨⟨after.length, ?_⟩, fun isReturn => ?_⟩
    · rw [split, ← List.eq_replicate_of_mem same]
    · exact of_decide_eq_false (last _ isReturn) rfl
  · rintro ⟨⟨count, split⟩, last⟩
    refine ⟨_, split, fun character member => ?_, fun character isLast => ?_⟩
    · exact decide_eq_true (List.eq_of_mem_replicate member)
    · refine decide_eq_false fun isReturn => last ?_
      rw [isLast, isReturn]

theorem ofReport?_eq_some_iff {report : Report} {diagnostic : Diagnostic} :
    ofReport? report = some diagnostic ↔
      Ordinal report.line diagnostic.line ∧ Ordinal report.column diagnostic.column ∧
        WithoutReturns report.message diagnostic.message := by
  simp only [ofReport?, Option.bind_eq_bind, Option.bind_eq_some_iff, Option.pure_def,
    Option.some.injEq, readOrdinal?_eq_some_iff]
  constructor
  · rintro ⟨line, lineValue, column, columnValue, rfl⟩
    exact ⟨lineValue, columnValue, dropTrailing_eq_iff.mp rfl⟩
  · rintro ⟨line, column, message⟩
    exact ⟨_, line, _, column, by rw [dropTrailing_eq_iff.mpr message]⟩

theorem apply_of_grammar? {limit : Nat} {extension : Text} {grammar : Grammar}
    (built : grammar? limit extension = some grammar) (text : Text) :
    grammar text = (firstReport? extension true text).bind ofReport? := by
  simp only [grammar?, Option.ite_none_right_eq_some, Option.some.injEq] at built
  rw [← built.2]
  rfl

/-- The place of a diagnostic that was found counts from one. -/
theorem positive_of_grammar? {limit : Nat} {extension : Text} {grammar : Grammar}
    (built : grammar? limit extension = some grammar) {text : Text} {diagnostic : Diagnostic}
    (found : grammar text = some diagnostic) :
    1 ≤ diagnostic.line ∧ 1 ≤ diagnostic.column := by
  rw [apply_of_grammar? built] at found
  obtain ⟨report, -, read⟩ := Option.bind_eq_some_iff.mp found
  obtain ⟨line, column, -⟩ := ofReport?_eq_some_iff.mp read
  exact ⟨line.positive, column.positive⟩

/-- The grammar of an extension recognises exactly the form of reports.  Without a
decomposition there is no diagnostic.  With one, there is a decomposition that counts,
and it alone decides: the diagnostic has its numbers, which must have values, and its
message. -/
theorem grammar_recognises {limit : Nat} {extension : Text} {grammar : Grammar}
    (built : grammar? limit extension = some grammar) (text : Text) :
    ((∀ before path report after,
        ¬ Decomposition extension text before path report after) →
      grammar text = none) ∧
    ((∃ before path report after, Decomposition extension text before path report after) →
      ∃ before path report after, Preferred extension text before path report after) ∧
    (∀ before path report after, Preferred extension text before path report after →
      ∀ diagnostic, grammar text = some diagnostic ↔
        Ordinal report.line diagnostic.line ∧ Ordinal report.column diagnostic.column ∧
          WithoutReturns report.message diagnostic.message) := by
  have grammarEq := apply_of_grammar? built text
  refine ⟨?_, ?_, ?_⟩
  · intro absent
    rw [grammarEq, firstReport?_eq_none_iff.mpr absent]
    rfl
  · rintro ⟨before, path, report, after, decomposition⟩
    cases searched : firstReport? extension true text with
    | none =>
        have absent := firstReport?_eq_none_iff.mp searched
        exact (absent before path report after decomposition).elim
    | some found =>
        obtain ⟨before', path', after', preferred⟩ := firstReport?_eq_some_iff.mp searched
        exact ⟨before', path', found, after', preferred⟩
  · intro before path report after preferred diagnostic
    have searched := firstReport?_eq_some_iff.mpr ⟨before, path, after, preferred⟩
    rw [grammarEq, searched, Option.bind_some]
    exact ofReport?_eq_some_iff

/-- Of two places in a line, the last one counts. -/
theorem grammar_recognises_last_place :
    grammar? 3 "kts".toList = some (grammar "kts".toList) ∧
      grammar "kts".toList "a.kts:1:1: error: b.kts:02:3: error: c\r\nd".toList =
        some ⟨2, 3, ['c']⟩ := by
  have built : grammar? 3 "kts".toList = some (grammar "kts".toList) := rfl
  have searched : firstReport? "kts".toList true
      "a.kts:1:1: error: b.kts:02:3: error: c\r\nd".toList =
        some ⟨['0', '2'], ['3'], ['c', '\r']⟩ := by decide +kernel
  obtain ⟨before, path, after, preferred⟩ := firstReport?_eq_some_iff.mp searched
  have line : Ordinal ['0', '2'] 2 := ⟨List.all_eq_true.mp rfl, rfl, by decide, by decide⟩
  have column : Ordinal ['3'] 3 := ⟨List.all_eq_true.mp rfl, rfl, by decide, by decide⟩
  have message : WithoutReturns ['c', '\r'] ['c'] := ⟨⟨1, rfl⟩, by decide⟩
  refine ⟨built, ?_⟩
  have recognised := grammar_recognises built
    "a.kts:1:1: error: b.kts:02:3: error: c\r\nd".toList
  exact (recognised.2.2 _ _ _ _ preferred _).mpr ⟨line, column, message⟩

end Diagnostic

end ScriptDesk

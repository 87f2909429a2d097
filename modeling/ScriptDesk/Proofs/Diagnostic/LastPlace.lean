import Mathlib.Data.List.Basic
import ScriptDesk.Proofs.Diagnostic.Recognition
import ScriptDesk.Proofs.Text.Segments

/-!
# The report that ends its line

`Shows` says that an output holds a report at the end of its first line that
has one.  If no later place of the report opens another, its decomposition is
the one that counts: no line before holds a report, and a longer path would
leave a later place.  What stands before the report is of no account then, and
neither are the lines after it.

Extensions with a line feed are left out, since with one a report may reach
over several lines.
-/

namespace ScriptDesk

theorem Text.isDecimalDigit_of_isDigit {character : Char} (digit : character.isDigit = true) :
    isDecimalDigit character = true := by
  have range : 48 ≤ character.toNat ∧ character.toNat ≤ 57 := by
    simpa [Char.isDigit, UInt32.le_iff_toNat_le] using digit
  simp [isDecimalDigit, CodeRange.holds, digitRanges, CodeRange.contains, range]

theorem Text.isDecimalDigit_lineFeed : isDecimalDigit '\n' = false := by decide

namespace Diagnostic

variable {extension output before path line column after : Text} {report : Report}

/-- What a report begins with: the extension mark, two numbers, and the error mark. -/
def opening (extension line column : Text) : Text :=
  extensionMark extension ++ (line ++ ([':'] ++ (column ++ errorMark)))

def Report.text (extension : Text) (report : Report) : Text :=
  opening extension report.line report.column ++ report.message

def Opens (extension text : Text) : Prop :=
  ∃ line column rest, DigitRow line ∧ DigitRow column ∧
    text = opening extension line column ++ rest

/-- No report opens in a text behind its beginning. -/
def OpensOnce (extension text : Text) : Prop :=
  ∀ skipped rest, text = skipped ++ rest → Opens extension rest → skipped = []

def Reports (extension text : Text) : Prop :=
  ∃ before path report after, Decomposition extension text before path report after

/-- Complete lines, none of which has a report. -/
structure Quiet (extension text : Text) : Prop where
  complete : CompleteLines text
  quiet : ∀ line ∈ Text.segments text, ¬ Reports extension line

/-- Behind quiet lines, an output has a line that ends in a report. -/
def Shows (extension : Text) (report : Report) (output : Text) : Prop :=
  ∃ before path after, output = before ++ (path ++ (report.text extension ++ after)) ∧
    Quiet extension before ∧ '\n' ∉ path ∧ EndsLine after

/-- A report as it is written in one line. -/
structure Written (report : Report) : Prop where
  line_digits : DigitRow report.line
  column_digits : DigitRow report.column
  message_single : '\n' ∉ report.message

theorem DigitRow.not_mem {digits : Text} (row : DigitRow digits) : '\n' ∉ digits := by
  intro member
  have digit := row.2 '\n' member
  rw [Text.isDecimalDigit_lineFeed] at digit
  cases digit

theorem not_mem_opening (single : '\n' ∉ extension) (lineDigits : DigitRow line)
    (columnDigits : DigitRow column) : '\n' ∉ opening extension line column := by
  have mark : '\n' ∉ errorMark := by decide
  simp [opening, extensionMark, single, lineDigits.not_mem, columnDigits.not_mem, mark]

theorem Written.not_mem_text (written : Written report) (single : '\n' ∉ extension) :
    '\n' ∉ report.text extension := by
  rw [Report.text, List.mem_append, not_or]
  exact ⟨not_mem_opening single written.line_digits written.column_digits,
    written.message_single⟩

theorem decomposition_iff :
    Decomposition extension output before path report after ↔
      output = before ++ (path ++ (report.text extension ++ after)) ∧
        CompleteLines before ∧ '\n' ∉ path ∧ Written report ∧ EndsLine after := by
  have same : ∀ text : Text, text = before ++ (path ++ (report.text extension ++ after)) ↔
      text = before ++ (path ++ (extensionMark extension ++ (report.line ++
        ([':'] ++ (report.column ++ (errorMark ++ (report.message ++ after))))))) := by
    intro text
    simp only [Report.text, opening, List.append_assoc]
  constructor
  · intro decomposition
    exact ⟨(same output).mpr decomposition.text_eq, decomposition.before_complete,
      decomposition.path_single, ⟨decomposition.line_digits, decomposition.column_digits,
        decomposition.message_single⟩, decomposition.after_ends⟩
  · rintro ⟨split, complete, single, written, ends⟩
    exact ⟨(same output).mp split, complete, single, written.line_digits,
      written.column_digits, written.message_single, ends⟩

theorem quiet_iff :
    Quiet extension before ↔ CompleteLines before ∧
      ∀ line ∈ Text.segments before, firstReport? extension true line = none := by
  have searched : ∀ line, firstReport? extension true line = none ↔
      ¬ Reports extension line := by
    intro line
    simp only [firstReport?_eq_none_iff, Reports, not_exists]
  simp only [searched]
  exact ⟨fun quiet => ⟨quiet.complete, quiet.quiet⟩, fun quiet => ⟨quiet.1, quiet.2⟩⟩

/-- Where there is no further dot, no further report opens. -/
theorem opensOnce_of_not_mem {rest : Text} (absent : '.' ∉ rest) :
    OpensOnce extension ('.' :: rest) := by
  rintro skipped remaining split ⟨line, column, behind, -, -, rfl⟩
  cases skipped with
  | nil => rfl
  | cons first skipped =>
      rw [(List.cons.inj split).2] at absent
      exact (absent (by simp [opening, extensionMark])).elim

theorem EndsLine.head_eq {first : Char} {rest : Text} (ends : EndsLine (first :: rest)) :
    first = '\n' := by
  rcases ends with absurd | head
  · cases absurd
  · simpa using head

/-- A line that goes to its end reaches at least as far as a part without line feeds. -/
theorem exists_eq_append_of_single {core part rest : Text} (single : '\n' ∉ part)
    (ends : EndsLine after) (split : core ++ after = part ++ rest) :
    ∃ remaining, core = part ++ remaining := by
  rcases List.append_eq_append_iff.mp split with ⟨missing, rfl, rfl⟩ | ⟨remaining, rfl, -⟩
  · cases missing with
    | nil => exact ⟨[], by simp⟩
    | cons first missing => exact (single (by simp [ends.head_eq])).elim
  · exact ⟨remaining, rfl⟩

theorem mem_segments_append {earlier whole : Text} (complete : CompleteLines earlier)
    (single : '\n' ∉ whole) (rest : Text) :
    whole ∈ Text.segments (earlier ++ (whole ++ '\n' :: rest)) := by
  rw [Text.segments_append_of_complete complete, Text.segments_append_lineFeed,
    Text.segments_of_single single]
  exact List.mem_append_right _ (List.mem_append_left _ List.mem_cons_self)

/-- A line that begins within complete lines also ends there. -/
theorem mem_segments_of_begins_within {earlier whole rest : Text}
    (complete : CompleteLines before) (earlierComplete : CompleteLines earlier)
    (single : '\n' ∉ whole) (ends : EndsLine after)
    (split : before ++ rest = earlier ++ (whole ++ after))
    (within : earlier.length < before.length) : whole ∈ Text.segments before := by
  rcases List.append_eq_append_iff.mp split with ⟨missing, rfl, -⟩ | ⟨inside, rfl, parted⟩
  · simp at within
  · have nonempty : inside ≠ [] := by
      rintro rfl
      simp at within
    have closed : inside.getLast? = some '\n' := by
      rcases complete with absurd | closed
      · exact (nonempty (List.append_eq_nil_iff.mp absurd).2).elim
      · rwa [List.getLast?_append_of_ne_nil _ nonempty] at closed
    have lineFeed : '\n' ∈ inside := List.mem_of_getLast? closed
    rcases List.append_eq_append_iff.mp parted with ⟨others, rfl, behind⟩ | ⟨others, rfl, -⟩
    · cases others with
      | nil => exact (single (by simpa using lineFeed)).elim
      | cons first others =>
          rw [behind] at ends
          rw [ends.head_eq]
          exact mem_segments_append earlierComplete single others
    · exact (single (List.mem_append_left _ lineFeed)).elim

/-- No line with a report begins within quiet lines. -/
theorem Quiet.length_le {earlier path' after' rest : Text} {other : Report}
    (quiet : Quiet extension before) (single : '\n' ∉ extension)
    (decomposition : Decomposition extension (before ++ rest) earlier path' other after') :
    before.length ≤ earlier.length := by
  obtain ⟨split, complete, pathSingle, written, ends⟩ := decomposition_iff.mp decomposition
  by_contra within
  rw [← List.append_assoc path'] at split
  have wholeSingle : '\n' ∉ path' ++ other.text extension := by
    rw [List.mem_append, not_or]
    exact ⟨pathSingle, written.not_mem_text single⟩
  have member := mem_segments_of_begins_within quiet.complete complete wholeSingle ends split
    (Nat.lt_of_not_le within)
  apply quiet.quiet _ member
  exact ⟨[], path', other, [], decomposition_iff.mpr
    ⟨by simp, .inl rfl, pathSingle, written, .inl rfl⟩⟩

/-- No report opens in the same line further to the right. -/
theorem OpensOnce.length_le {path' after' : Text} {other : Report}
    (once : OpensOnce extension (report.text extension)) (single : '\n' ∉ extension)
    (ends : EndsLine after)
    (decomposition : Decomposition extension
      (before ++ (path ++ (report.text extension ++ after))) before path' other after') :
    path'.length ≤ path.length := by
  obtain ⟨split, -, pathSingle, written, -⟩ := decomposition_iff.mp decomposition
  have sameLine := List.append_cancel_left split
  rcases List.append_eq_append_iff.mp sameLine with ⟨skipped, rfl, parted⟩ | ⟨_, rfl, -⟩
  · have openingSingle : '\n' ∉ skipped ++ opening extension other.line other.column := by
      rw [List.mem_append, not_or] at pathSingle ⊢
      exact ⟨pathSingle.2, not_mem_opening single written.line_digits written.column_digits⟩
    have reaches : report.text extension ++ after =
        skipped ++ opening extension other.line other.column ++ (other.message ++ after') := by
      rw [parted, Report.text]
      simp only [List.append_assoc]
    obtain ⟨remaining, text⟩ := exists_eq_append_of_single openingSingle ends reaches
    rw [List.append_assoc] at text
    have here := once skipped _ text
      ⟨_, _, _, written.line_digits, written.column_digits, rfl⟩
    simp [here]
  · simp

theorem preferred_of_quiet (single : '\n' ∉ extension) (quiet : Quiet extension before)
    (pathSingle : '\n' ∉ path) (written : Written report)
    (once : OpensOnce extension (report.text extension)) (ends : EndsLine after) :
    Preferred extension (before ++ (path ++ (report.text extension ++ after)))
      before path report after where
  toDecomposition := decomposition_iff.mpr ⟨rfl, quiet.complete, pathSingle, written, ends⟩
  earliest := fun _ _ _ _ decomposition => quiet.length_le single decomposition
  longest := fun _ _ _ decomposition => once.length_le single ends decomposition

theorem Ordinal.digitRow {digits : Text} {number : Nat} (ordinal : Ordinal digits number) :
    DigitRow digits := by
  refine ⟨?_, fun digit member => Text.isDecimalDigit_of_isDigit (ordinal.ascii digit member)⟩
  rintro rfl
  have positive := ordinal.positive
  rw [← ordinal.value] at positive
  cases positive

/-- The diagnostic of an output that shows a report depends on the report alone. -/
theorem grammar_of_shows {limit : Nat} {grammar : Grammar} {diagnostic : Diagnostic}
    (built : grammar? limit extension = some grammar) (single : '\n' ∉ extension)
    (shown : Shows extension report output) (messageSingle : '\n' ∉ report.message)
    (once : OpensOnce extension (report.text extension))
    (line : Ordinal report.line diagnostic.line)
    (column : Ordinal report.column diagnostic.column)
    (message : WithoutReturns report.message diagnostic.message) :
    grammar output = some diagnostic := by
  obtain ⟨before, path, after, rfl, quiet, pathSingle, ends⟩ := shown
  have written : Written report := ⟨line.digitRow, column.digitRow, messageSingle⟩
  have searched := firstReport?_eq_some_iff.mpr
    ⟨before, path, after, preferred_of_quiet single quiet pathSingle written once ends⟩
  rw [apply_of_grammar? built, searched, Option.bind_some]
  exact ofReport?_eq_some_iff.mpr ⟨line, column, message⟩

end Diagnostic

end ScriptDesk

import ScriptDesk.Host
import ScriptDesk.Proofs.Diagnostic.LastPlace
import ScriptDesk.Proofs.Text.Decimal

/-!
# Reading back what is printed

An interpreter names a script by the path of its file, which ends in the
extension that the grammar is built from.  So the dot of the extension is where
the report opens, and the numbers and the message are read back as they were
printed.  A label has the same form with another name for the script.
-/

namespace ScriptDesk

theorem Config.suffix_below (directory name : Text) : name <:+ below directory name := by
  unfold below
  split
  · exact List.suffix_refl name
  · split
    · exact List.suffix_append _ _
    · exact (List.suffix_cons _ _).trans (List.suffix_append _ _)

namespace Diagnostic

/-- What an interpreter writes behind the path of a script to report a diagnostic. -/
def reported (diagnostic : Diagnostic) : Text :=
  ':' :: Nat.toDigits 10 diagnostic.line ++ ':' :: Nat.toDigits 10 diagnostic.column ++
    ": error: ".toList ++ diagnostic.message

/-- The report that is read off a printed diagnostic, with carriage returns at its end. -/
def printed (diagnostic : Diagnostic) (returns : Nat) : Report :=
  ⟨Text.decimal diagnostic.line, Text.decimal diagnostic.column,
    diagnostic.message ++ List.replicate returns '\r'⟩

theorem text_printed (extension : Text) (diagnostic : Diagnostic) (returns : Nat) :
    (diagnostic.printed returns).text extension =
      '.' :: extension ++ diagnostic.reported ++ List.replicate returns '\r' := by
  unfold Report.text opening extensionMark printed reported errorMark
  rw [Text.decimal_eq_toDigits, Text.decimal_eq_toDigits]
  simp only [List.cons_append, List.append_assoc, List.nil_append]

theorem label_eq (diagnostic : Diagnostic) :
    diagnostic.label = "script".toList ++ diagnostic.reported := by
  unfold label labelFor scriptName reported errorMark
  rw [Text.decimal_eq_toDigits, Text.decimal_eq_toDigits]
  simp only [List.cons_append, List.append_assoc]

theorem ordinal_decimal {number : Nat} (positive : 1 ≤ number) (fits : number ≤ 2 ^ 64 - 1) :
    Ordinal (Text.decimal number) number := by
  have small : number < Text.wordLimit := Nat.lt_of_le_sub_one (by decide) fits
  rw [← readOrdinal?_eq_some_iff, readOrdinal?, Text.readDigits?_decimal small]
  simp [positive]

/-- The name of a script's file ends in the extension. -/
theorem extension_suffix_scriptPath (config : Config) :
    '.' :: config.extension <:+ Host.scriptPath config := by
  have named : '.' :: config.extension <:+
      config.filePrefix ++ Host.scriptMark ++ '.' :: config.extension :=
    List.suffix_append _ _
  unfold Host.scriptPath
  simp only
  split
  · exact named
  · exact named.trans (Config.suffix_below _ _)

theorem shows_reported {extension before path after : Text} {diagnostic : Diagnostic}
    (quiet : Quiet extension before) (pathSingle : '\n' ∉ path)
    (named : '.' :: extension <:+ path) (returns : Nat) (ends : EndsLine after) :
    Shows extension (diagnostic.printed returns)
      (before ++ (path ++ diagnostic.reported ++ List.replicate returns '\r' ++ after)) := by
  obtain ⟨name, rfl⟩ := named
  rw [List.mem_append, not_or] at pathSingle
  refine ⟨before, name, after, ?_, quiet, pathSingle.1, ends⟩
  rw [text_printed]
  simp only [List.append_assoc]

/-- The grammar of a configuration reads back what is printed about a script of that
configuration: whatever the path is, as long as it ends in the extension, as the paths of
script files do.  The line that was read is the label with the path in place of the
script's name. -/
theorem grammar_reads_printed {config : Config} {grammar : Grammar} {diagnostic : Diagnostic}
    {before path after : Text} {returns limit : Nat}
    (built : grammar? limit config.extension = some grammar) (single : '\n' ∉ config.extension)
    (pathSingle : '\n' ∉ path) (named : '.' :: config.extension <:+ path)
    (line : 1 ≤ diagnostic.line ∧ diagnostic.line ≤ 2 ^ 64 - 1)
    (column : 1 ≤ diagnostic.column ∧ diagnostic.column ≤ 2 ^ 64 - 1)
    (messageSingle : '\n' ∉ diagnostic.message)
    (messageLast : diagnostic.message.getLast? ≠ some '\r')
    (quiet : Quiet config.extension before) (ends : EndsLine after)
    (once : OpensOnce config.extension
      ('.' :: config.extension ++ diagnostic.reported ++ List.replicate returns '\r')) :
    grammar (before ++ (path ++ diagnostic.reported ++ List.replicate returns '\r' ++ after)) =
        some diagnostic ∧
      diagnostic.label = "script".toList ++ diagnostic.reported ∧
      '.' :: config.extension <:+ Host.scriptPath config := by
  rw [← text_printed] at once
  have reportSingle : '\n' ∉ (diagnostic.printed returns).message := by
    simp [printed, messageSingle]
  have message : WithoutReturns (diagnostic.printed returns).message diagnostic.message :=
    ⟨⟨returns, rfl⟩, messageLast⟩
  have read := grammar_of_shows built single
    (shows_reported quiet pathSingle named returns ends) reportSingle once
    (ordinal_decimal line.1 line.2) (ordinal_decimal column.1 column.2) message
  exact ⟨read, label_eq diagnostic, extension_suffix_scriptPath config⟩

/-- A path that holds a report itself, a column that just fits, and a later report. -/
theorem grammar_reads_printed_look_alike :
    grammar "kts".toList ("note\n".toList ++ ("/tmp/a.kts:1:1: error: b.kts".toList ++
      reported ⟨2, 18446744073709551615, ['x']⟩ ++ ['\r'] ++
        "\nc.kts:3:3: error: y".toList)) = some ⟨2, 18446744073709551615, ['x']⟩ ∧
      label ⟨2, 18446744073709551615, ['x']⟩ =
        "script".toList ++ reported ⟨2, 18446744073709551615, ['x']⟩ := by
  have quiet : Quiet Config.builtIn.extension "note\n".toList :=
    quiet_iff.mpr ⟨.inr rfl, by decide⟩
  have read := @grammar_reads_printed Config.builtIn (grammar "kts".toList)
    ⟨2, 18446744073709551615, ['x']⟩ "note\n".toList "/tmp/a.kts:1:1: error: b.kts".toList
    "\nc.kts:3:3: error: y".toList 1 3 rfl (by decide) (by decide) (by decide) (by decide)
    (by decide) (by decide) (by decide) quiet (.inr rfl) (opensOnce_of_not_mem (by decide))
  exact ⟨read.1, read.2.1⟩

end Diagnostic

end ScriptDesk

import ScriptDesk.Diagnostic

/-!
# The form of a report, as a relation

A text holds a report if it is a beginning of whole lines, then a path, the extension
mark, a number, a colon, a number, the error mark, a message without a line feed, and an
end that is empty or begins with a line feed. The relation says nothing of how such a
decomposition is found; among several, the one that counts has the shortest beginning and,
among those, the longest path.
-/

namespace ScriptDesk.Diagnostic

def CompleteLines (text : Text) : Prop :=
  text = [] ∨ text.getLast? = some '\n'

/-- A text cannot continue the line before it. -/
def EndsLine (text : Text) : Prop :=
  text = [] ∨ text.head? = some '\n'

def DigitRow (text : Text) : Prop :=
  text ≠ [] ∧ ∀ character ∈ text, Text.isDecimalDigit character = true

/-- One way in which a text holds a report. -/
structure Decomposition (extension text before path : Text) (report : Report)
    (after : Text) : Prop where
  text_eq : text = before ++ (path ++ (extensionMark extension ++ (report.line ++
    ([':'] ++ (report.column ++ (errorMark ++ (report.message ++ after)))))))
  before_complete : CompleteLines before
  path_single : '\n' ∉ path
  line_digits : DigitRow report.line
  column_digits : DigitRow report.column
  message_single : '\n' ∉ report.message
  after_ends : EndsLine after

/-- The decomposition that counts: no other begins in an earlier line, or in the same
line and further to the right. -/
structure Preferred (extension text before path : Text) (report : Report)
    (after : Text) : Prop extends Decomposition extension text before path report after where
  earliest : ∀ before' path' report' after',
    Decomposition extension text before' path' report' after' →
      before.length ≤ before'.length
  longest : ∀ path' report' after',
    Decomposition extension text before path' report' after' →
      path'.length ≤ path.length

end ScriptDesk.Diagnostic

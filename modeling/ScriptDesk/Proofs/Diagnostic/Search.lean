import Mathlib.Data.List.TakeWhile
import ScriptDesk.Diagnostic.Decomposition

/-!
# The search for a report

The search and the form of a report say the same.  A place has at most one
report, since a colon is not a digit and a message goes to the end of its line.
The search in a line finds the report with the longest path, and the search in
lines finds the one that begins in the earliest line.

`Holds` is the form of a report in a text that may continue a line, which is
what the search over the rests of a text needs.
-/

namespace ScriptDesk

theorem Text.dropLeading?_eq_some_iff {leading text rest : Text} :
    dropLeading? leading text = some rest ↔ text = leading ++ rest := by
  constructor
  · exact eq_append_of_dropLeading?
  · rintro rfl
    exact dropLeading?_append leading rest

theorem Text.isDecimalDigit_colon : isDecimalDigit ':' = false := by decide

namespace Diagnostic

variable {extension text rest before path after : Text} {report other : Report}

/-- The text begins with the extension mark of a report, after which something follows. -/
structure Begins (extension text : Text) (report : Report) (after : Text) : Prop where
  text_eq : text = extensionMark extension ++ (report.line ++ ([':'] ++
    (report.column ++ (errorMark ++ (report.message ++ after)))))
  line_digits : DigitRow report.line
  column_digits : DigitRow report.column
  message_single : '\n' ∉ report.message
  after_ends : EndsLine after

theorem leadingDigits?_append {digits : Text} (row : DigitRow digits) {next : Char}
    (stops : Text.isDecimalDigit next = false) (rest : Text) :
    leadingDigits? (digits ++ next :: rest) = some (digits, next :: rest) := by
  obtain ⟨nonempty, inside⟩ := row
  have taken : (digits ++ next :: rest).takeWhile Text.isDecimalDigit = digits := by
    rw [List.takeWhile_append_of_pos inside]
    simp [stops]
  have dropped :
      (digits ++ next :: rest).dropWhile Text.isDecimalDigit = next :: rest := by
    rw [List.dropWhile_append_of_pos inside]
    simp [stops]
  simp [leadingDigits?, taken, dropped, nonempty]

theorem of_leadingDigits? {digits : Text}
    (found : leadingDigits? text = some (digits, rest)) :
    text = digits ++ rest ∧ DigitRow digits := by
  simp only [leadingDigits?] at found
  split at found
  case isTrue => cases found
  case isFalse nonempty =>
    cases found
    refine ⟨List.takeWhile_append_dropWhile.symm, by simpa using nonempty, ?_⟩
    exact fun _ member => List.mem_takeWhile_imp member

theorem takeWhile_message {message : Text} (single : '\n' ∉ message)
    (ends : EndsLine after) :
    (message ++ after).takeWhile (· ≠ '\n') = message := by
  have inside : ∀ character ∈ message, decide (character ≠ '\n') = true := by
    intro character member
    have different : character ≠ '\n' := fun same => single (same ▸ member)
    simpa using different
  rw [List.takeWhile_append_of_pos inside]
  rcases ends with rfl | head
  · simp
  · cases after with
    | nil => simp
    | cons first after =>
        have same : first = '\n' := by simpa using head
        simp [same]

theorem endsLine_dropWhile (text : Text) : EndsLine (text.dropWhile (· ≠ '\n')) := by
  cases remaining : text.dropWhile (· ≠ '\n') with
  | nil => exact .inl rfl
  | cons first rest =>
      right
      have stopped := List.head?_dropWhile_not (· ≠ '\n') text
      rw [remaining] at stopped
      simpa using stopped

theorem reportAt?_eq_some_iff :
    reportAt? extension text = some report ↔
      ∃ after, Begins extension text report after := by
  constructor
  · intro found
    simp only [reportAt?, Option.bind_eq_bind, Option.bind_eq_some_iff, Prod.exists,
      Option.pure_def, Option.some.injEq, Text.dropLeading?_eq_some_iff] at found
    obtain ⟨_, rfl, line, _, foundLine, _, rfl, column, _, foundColumn, message, rfl,
      rfl⟩ := found
    obtain ⟨rfl, lineDigits⟩ := of_leadingDigits? foundLine
    obtain ⟨rfl, columnDigits⟩ := of_leadingDigits? foundColumn
    refine ⟨message.dropWhile (· ≠ '\n'), ?_, lineDigits, columnDigits, ?_,
      endsLine_dropWhile message⟩
    · rw [List.takeWhile_append_dropWhile]
    · intro member
      have different := List.mem_takeWhile_imp member
      simp at different
  · rintro ⟨after, begins⟩
    have line : leadingDigits? (report.line ++ ([':'] ++ (report.column ++ (errorMark ++
        (report.message ++ after))))) = some (report.line, _) :=
      leadingDigits?_append begins.line_digits Text.isDecimalDigit_colon _
    have column : leadingDigits? (report.column ++ (errorMark ++
        (report.message ++ after))) = some (report.column, _) :=
      leadingDigits?_append begins.column_digits Text.isDecimalDigit_colon _
    have message := takeWhile_message begins.message_single begins.after_ends
    simp only [reportAt?, Option.bind_eq_bind, Option.bind_eq_some_iff, Prod.exists,
      Option.pure_def, Option.some.injEq, Text.dropLeading?_eq_some_iff]
    exact ⟨_, begins.text_eq, report.line, _, line, _, rfl, report.column, _, column, _,
      rfl, by rw [message]⟩

theorem Begins.report_eq {otherAfter : Text} (begins : Begins extension text report after)
    (otherBegins : Begins extension text other otherAfter) : other = report := by
  have found := reportAt?_eq_some_iff.mpr ⟨after, begins⟩
  rw [reportAt?_eq_some_iff.mpr ⟨otherAfter, otherBegins⟩] at found
  exact Option.some.inj found

theorem Begins.head?_eq (begins : Begins extension text report after) :
    text.head? = some '.' := by
  rw [begins.text_eq]
  rfl

/-- The first line of the text has a report after a path. -/
def HoldsInLine (extension text path : Text) (report : Report) (after : Text) : Prop :=
  '\n' ∉ path ∧ ∃ rest, text = path ++ rest ∧ Begins extension rest report after

theorem not_holdsInLine_nil : ¬ HoldsInLine extension [] path report after := by
  rintro ⟨_, rest, empty, begins⟩
  have head := begins.head?_eq
  rw [(List.append_eq_nil_iff.mp empty.symm).2] at head
  cases head

theorem holdsInLine_cons_iff {character : Char} :
    HoldsInLine extension (character :: text) path report after ↔
      path = [] ∧ Begins extension (character :: text) report after ∨
      ∃ later, path = character :: later ∧ character ≠ '\n' ∧
        HoldsInLine extension text later report after := by
  constructor
  · rintro ⟨single, rest, split, begins⟩
    cases path with
    | nil =>
        left
        rw [List.nil_append] at split
        exact ⟨rfl, split ▸ begins⟩
    | cons first later =>
        right
        obtain ⟨rfl, rfl⟩ := List.cons.inj split
        rw [List.mem_cons, not_or] at single
        exact ⟨later, rfl, Ne.symm single.1, single.2, rest, rfl, begins⟩
  · rintro (⟨rfl, begins⟩ | ⟨later, rfl, different, single, rest, rfl, begins⟩)
    · exact ⟨List.not_mem_nil, _, rfl, begins⟩
    · refine ⟨?_, rest, rfl, begins⟩
      rw [List.mem_cons, not_or]
      exact ⟨Ne.symm different, single⟩

theorem not_holdsInLine_lineFeed :
    ¬ HoldsInLine extension ('\n' :: text) path report after := by
  intro holds
  rcases holdsInLine_cons_iff.mp holds with ⟨_, begins⟩ | ⟨_, _, different, _⟩
  · cases begins.head?_eq
  · exact different rfl

/-- A report of the first line after the longest path that has one. -/
structure Longest (extension text path : Text) (report : Report) (after : Text) :
    Prop where
  holds : HoldsInLine extension text path report after
  longest : ∀ path' report' after',
    HoldsInLine extension text path' report' after' → path'.length ≤ path.length

theorem Longest.cons {character : Char}
    (found : Longest extension text path report after) (different : character ≠ '\n') :
    Longest extension (character :: text) (character :: path) report after where
  holds := holdsInLine_cons_iff.mpr (.inr ⟨path, rfl, different, found.holds⟩)
  longest := by
    intro path' report' after' holds'
    rcases holdsInLine_cons_iff.mp holds' with ⟨rfl, _⟩ | ⟨rest, rfl, _, inRest⟩
    · exact Nat.zero_le _
    · exact Nat.succ_le_succ (found.longest rest report' after' inRest)

theorem Longest.here {character : Char}
    (begins : Begins extension (character :: text) report after)
    (notLater : ∀ path report after, ¬ HoldsInLine extension text path report after) :
    Longest extension (character :: text) [] report after where
  holds := holdsInLine_cons_iff.mpr (.inl ⟨rfl, begins⟩)
  longest := by
    intro path' report' after' holds'
    rcases holdsInLine_cons_iff.mp holds' with ⟨rfl, _⟩ | ⟨rest, _, _, inRest⟩
    · exact le_rfl
    · exact (notLater rest report' after' inRest).elim

/-- The search in a line finds the report after the longest path, and nothing only if the
line has no report. -/
theorem lastReport?_spec (extension text : Text) :
    match lastReport? extension text with
    | some report => ∃ path after, Longest extension text path report after
    | none => ∀ path report after, ¬ HoldsInLine extension text path report after := by
  induction text with
  | nil => exact fun _ _ _ => not_holdsInLine_nil
  | cons character text induction =>
      by_cases lineFeed : character = '\n'
      · subst lineFeed
        exact fun _ _ _ => not_holdsInLine_lineFeed
      · cases later : lastReport? extension text with
        | some report =>
            rw [later] at induction
            obtain ⟨path, after, found⟩ := induction
            simp only [lastReport?, lineFeed, later, if_false]
            exact ⟨character :: path, after, found.cons lineFeed⟩
        | none =>
            rw [later] at induction
            simp only [lastReport?, lineFeed, later, if_false]
            cases here : reportAt? extension (character :: text) with
            | some report =>
                obtain ⟨after, begins⟩ := reportAt?_eq_some_iff.mp here
                exact ⟨[], after, .here begins induction⟩
            | none =>
                intro path report after holds
                rcases holdsInLine_cons_iff.mp holds with
                  ⟨_, begins⟩ | ⟨rest, _, _, inRest⟩
                · rw [reportAt?_eq_some_iff.mpr ⟨after, begins⟩] at here
                  cases here
                · exact induction rest report after inRest

/-- What stands before a line: nothing if a line begins there, or something that ends in
a line feed. -/
def Completes (lineBegins : Bool) (before : Text) : Prop :=
  before = [] ∧ lineBegins = true ∨ before.getLast? = some '\n'

def Holds (extension : Text) (lineBegins : Bool) (text before path : Text)
    (report : Report) (after : Text) : Prop :=
  Completes lineBegins before ∧
    ∃ rest, text = before ++ rest ∧ HoldsInLine extension rest path report after

theorem completes_cons_iff {lineBegins : Bool} {character : Char} :
    Completes lineBegins (character :: before) ↔
      Completes (decide (character = '\n')) before := by
  unfold Completes
  cases before with
  | nil => simp
  | cons first rest => simp [List.getLast?_cons_cons]

theorem holds_cons_iff {lineBegins : Bool} {character : Char} :
    Holds extension lineBegins (character :: text) before path report after ↔
      before = [] ∧ lineBegins = true ∧
        HoldsInLine extension (character :: text) path report after ∨
      ∃ later, before = character :: later ∧
        Holds extension (decide (character = '\n')) text later path report after := by
  constructor
  · rintro ⟨completes, rest, split, inLine⟩
    cases before with
    | nil =>
        left
        rw [List.nil_append] at split
        rcases completes with ⟨_, begins⟩ | absent
        · exact ⟨rfl, begins, split ▸ inLine⟩
        · cases absent
    | cons first later =>
        right
        obtain ⟨rfl, rfl⟩ := List.cons.inj split
        exact ⟨later, rfl, completes_cons_iff.mp completes, rest, rfl, inLine⟩
  · rintro (⟨rfl, begins, inLine⟩ | ⟨later, rfl, completes, rest, rfl, inLine⟩)
    · exact ⟨.inl ⟨rfl, begins⟩, _, rfl, inLine⟩
    · exact ⟨completes_cons_iff.mpr completes, rest, rfl, inLine⟩

/-- No other line with a report begins earlier, and in that line no other report has a
longer path. -/
structure Chosen (extension : Text) (lineBegins : Bool) (text before path : Text)
    (report : Report) (after : Text) : Prop where
  holds : Holds extension lineBegins text before path report after
  earliest : ∀ before' path' report' after',
    Holds extension lineBegins text before' path' report' after' →
      before.length ≤ before'.length
  longest : ∀ path' report' after',
    Holds extension lineBegins text before path' report' after' →
      path'.length ≤ path.length

/-- A report that is chosen in what follows a character is chosen, unless the line that
begins with the character has a report. -/
theorem Chosen.cons {lineBegins : Bool} {character : Char}
    (chosen : Chosen extension (decide (character = '\n')) text before path report after)
    (notHere : ∀ path' report' after', lineBegins = true →
      ¬ HoldsInLine extension (character :: text) path' report' after') :
    Chosen extension lineBegins (character :: text) (character :: before) path report
      after where
  holds := holds_cons_iff.mpr (.inr ⟨before, rfl, chosen.holds⟩)
  earliest := by
    intro before' path' report' after' holds'
    rcases holds_cons_iff.mp holds' with ⟨_, begins, inLine⟩ | ⟨later, rfl, inRest⟩
    · exact (notHere path' report' after' begins inLine).elim
    · exact Nat.succ_le_succ (chosen.earliest later path' report' after' inRest)
  longest := by
    intro path' report' after' holds'
    rcases holds_cons_iff.mp holds' with ⟨absurd, _⟩ | ⟨later, same, inRest⟩
    · cases absurd
    · cases same
      exact chosen.longest path' report' after' inRest

theorem Chosen.here {character : Char}
    (found : Longest extension (character :: text) path report after) :
    Chosen extension true (character :: text) [] path report after where
  holds := holds_cons_iff.mpr (.inl ⟨rfl, rfl, found.holds⟩)
  earliest := fun _ _ _ _ _ => Nat.zero_le _
  longest := by
    intro path' report' after' holds'
    rcases holds_cons_iff.mp holds' with ⟨_, _, inLine⟩ | ⟨_, absurd, _⟩
    · exact found.longest path' report' after' inLine
    · cases absurd

/-- The search in lines finds the report that is chosen, and nothing only if no line has
a report. -/
theorem firstReport?_spec (extension : Text) (lineBegins : Bool) (text : Text) :
    match firstReport? extension lineBegins text with
    | some report => ∃ before path after,
        Chosen extension lineBegins text before path report after
    | none => ∀ before path report after,
        ¬ Holds extension lineBegins text before path report after := by
  induction text generalizing lineBegins with
  | nil =>
      rintro before path report after ⟨_, rest, empty, inLine⟩
      rw [(List.append_eq_nil_iff.mp empty.symm).2] at inLine
      exact not_holdsInLine_nil inLine
  | cons character text induction =>
      have inLine := lastReport?_spec extension (character :: text)
      cases here : (if lineBegins then lastReport? extension (character :: text)
          else none) with
      | some report =>
          simp only [firstReport?, here]
          cases lineBegins with
          | false => cases here
          | true =>
              rw [if_pos rfl] at here
              rw [here] at inLine
              obtain ⟨path, after, found⟩ := inLine
              exact ⟨[], path, after, .here found⟩
      | none =>
          have notHere : ∀ path report after, lineBegins = true →
              ¬ HoldsInLine extension (character :: text) path report after := by
            intro path report after begins
            rw [if_pos begins] at here
            rw [here] at inLine
            exact inLine path report after
          have inRest := induction (decide (character = '\n'))
          simp only [firstReport?, here]
          cases later : firstReport? extension (decide (character = '\n')) text with
          | some report =>
              rw [later] at inRest
              obtain ⟨before, path, after, chosen⟩ := inRest
              exact ⟨character :: before, path, after, chosen.cons notHere⟩
          | none =>
              rw [later] at inRest
              intro before path report after holds
              rcases holds_cons_iff.mp holds with ⟨_, begins, inLine'⟩ | ⟨rest, _, holds'⟩
              · exact notHere path report after begins inLine'
              · exact inRest rest path report after holds'

theorem decomposition_iff_holds :
    Decomposition extension text before path report after ↔
      Holds extension true text before path report after := by
  constructor
  · intro decomposition
    refine ⟨?_, _, decomposition.text_eq, decomposition.path_single, _, rfl, rfl,
      decomposition.line_digits, decomposition.column_digits,
      decomposition.message_single, decomposition.after_ends⟩
    exact decomposition.before_complete.imp_left fun empty => ⟨empty, rfl⟩
  · rintro ⟨completes, _, rfl, single, rest, rfl, begins⟩
    refine ⟨?_, completes.imp_left And.left, single, begins.line_digits,
      begins.column_digits, begins.message_single, begins.after_ends⟩
    rw [begins.text_eq]

theorem preferred_iff_chosen :
    Preferred extension text before path report after ↔
      Chosen extension true text before path report after := by
  constructor
  · intro preferred
    refine ⟨decomposition_iff_holds.mp preferred.toDecomposition, ?_, ?_⟩
    · intro before' path' report' after' holds
      exact preferred.earliest _ _ _ _ (decomposition_iff_holds.mpr holds)
    · intro path' report' after' holds
      exact preferred.longest _ _ _ (decomposition_iff_holds.mpr holds)
  · intro chosen
    refine ⟨decomposition_iff_holds.mpr chosen.holds, ?_, ?_⟩
    · intro before' path' report' after' decomposition
      exact chosen.earliest _ _ _ _ (decomposition_iff_holds.mp decomposition)
    · intro path' report' after' decomposition
      exact chosen.longest _ _ _ (decomposition_iff_holds.mp decomposition)

theorem Preferred.report_eq {before' path' after' : Text}
    (preferred : Preferred extension text before path report after)
    (otherPreferred : Preferred extension text before' path' other after') :
    other = report := by
  obtain ⟨_, line, textEq, _, rest, lineEq, begins⟩ :=
    decomposition_iff_holds.mp preferred.toDecomposition
  obtain ⟨_, line', textEq', _, rest', lineEq', begins'⟩ :=
    decomposition_iff_holds.mp otherPreferred.toDecomposition
  have sameStart : before.length = before'.length :=
    le_antisymm (preferred.earliest _ _ _ _ otherPreferred.toDecomposition)
      (otherPreferred.earliest _ _ _ _ preferred.toDecomposition)
  obtain ⟨rfl, rfl⟩ := List.append_inj (textEq.symm.trans textEq') sameStart
  have samePath : path.length = path'.length :=
    le_antisymm (otherPreferred.longest _ _ _ preferred.toDecomposition)
      (preferred.longest _ _ _ otherPreferred.toDecomposition)
  obtain ⟨rfl, rfl⟩ := List.append_inj (lineEq.symm.trans lineEq') samePath
  exact begins.report_eq begins'

theorem firstReport?_eq_none_iff :
    firstReport? extension true text = none ↔
      ∀ before path report after,
        ¬ Decomposition extension text before path report after := by
  have found := firstReport?_spec extension true text
  simp only [decomposition_iff_holds]
  constructor
  · intro absent
    rw [absent] at found
    exact found
  · intro absent
    cases searched : firstReport? extension true text with
    | none => rfl
    | some report =>
        rw [searched] at found
        obtain ⟨before, path, after, chosen⟩ := found
        exact (absent _ _ _ _ chosen.holds).elim

theorem firstReport?_eq_some_iff :
    firstReport? extension true text = some report ↔
      ∃ before path after, Preferred extension text before path report after := by
  have found := firstReport?_spec extension true text
  constructor
  · intro searched
    rw [searched] at found
    obtain ⟨before, path, after, chosen⟩ := found
    exact ⟨before, path, after, preferred_iff_chosen.mpr chosen⟩
  · rintro ⟨before, path, after, preferred⟩
    cases searched : firstReport? extension true text with
    | none =>
        have absent := firstReport?_eq_none_iff.mp searched
        exact (absent _ _ _ _ preferred.toDecomposition).elim
    | some other =>
        rw [searched] at found
        obtain ⟨_, _, _, chosen⟩ := found
        rw [preferred.report_eq (preferred_iff_chosen.mpr chosen)]

end Diagnostic

end ScriptDesk

import Mathlib.Data.List.Forall2
import ScriptDesk.App
import ScriptDesk.Proofs.Buffer.Reached
import ScriptDesk.Proofs.Text.Decimal
import ScriptDesk.Proofs.Text.Lines
import ScriptDesk.View.Listing

/-!
# The listing of a buffer

The listing numbers the segments of the text's body, so nothing of the text is lost but a
line feed at its end.  The line of the caret is among them unless the caret stands behind
that line feed: then it is on a line of its own, which has not begun.
-/

namespace ScriptDesk

namespace Position

theorem line_behind_of_ne {character : Char} (other : character ≠ '\n') (position : Position) :
    (position.behind character).line = position.line := by
  unfold behind
  rw [if_neg other]
  split
  case isTrue first => exact first.symm
  case isFalse => rfl

theorem line_ofOffset_length (text : Text) :
    (ofOffset text text.length).line = (Text.segments text).length := by
  induction text with
  | nil => rfl
  | cons character text induction =>
      rw [List.length_cons, ofOffset_cons_succ]
      by_cases lineFeed : character = '\n'
      · subst lineFeed
        simp [behind, Text.segments, induction]
      · obtain ⟨first, others, shape, shapeAfter⟩ := segments_cons_of_ne lineFeed text
        rw [line_behind_of_ne lineFeed, induction, shape, shapeAfter, List.length_cons,
          List.length_cons]

theorem line_ofOffset_le {text : Text} {offset : Nat} (inside : offset ≤ text.length) :
    (ofOffset text offset).line ≤ (Text.segments text).length :=
  (places_ofOffset inside).within.line_le

theorem ofOffset_append {text : Text} {offset : Nat} (inside : offset ≤ text.length)
    (rest : Text) : ofOffset (text ++ rest) offset = ofOffset text offset := by
  rw [ofOffset, List.take_append_of_le_length inside, ofOffset]

/-- An offset is on a line of the body, unless it is behind the line feed that the body
lacks. -/
theorem line_ofOffset_le_iff {text body : Text} {offset : Nat} (isBody : Text.Body text body)
    (inside : offset ≤ text.length) :
    (ofOffset text offset).line ≤ (Text.segments body).length ↔
      ¬ (text.getLast? = some '\n' ∧ offset = text.length) := by
  cases isBody with
  | closed body =>
      rcases Nat.lt_or_eq_of_le inside with before | atEnd
      · have within : offset ≤ body.length := by
          simpa [Nat.lt_succ_iff] using before
        refine iff_of_true ?_ ?_
        · rw [ofOffset_append within]
          exact line_ofOffset_le within
        · rintro ⟨-, atEnd⟩
          exact absurd atEnd (Nat.ne_of_lt before)
      · refine iff_of_false ?_ ?_
        · rw [atEnd, line_ofOffset_length, Text.segments_append_lineFeed, List.length_append]
          exact Nat.not_succ_le_self _
        · intro elsewhere
          exact elsewhere ⟨List.getLast?_concat, atEnd⟩
  | unclosed unclosed =>
      refine iff_of_true (line_ofOffset_le inside) ?_
      rintro ⟨closed, -⟩
      exact unclosed closed

end Position

namespace View

/-- A number stands right-aligned in a width. -/
structure Aligned (width number : Nat) (shown : Text) : Prop where
  length_eq : shown.length = width
  padded : ∃ spaces, shown = spaces ++ Nat.toDigits 10 number ∧ ∀ space ∈ spaces, space = ' '

/-- A line shows a segment behind a marker and its number. -/
inductive Lists (width caretLine number : Nat) (segment : Text) : ViewLine → Prop where
  | marked {shown : Text} (here : number = caretLine) (aligned : Aligned width number shown) :
      Lists width caretLine number segment ⟨.link, '>' :: (shown ++ " │ ".toList ++ segment)⟩
  | plain {shown : Text} (elsewhere : number ≠ caretLine)
      (aligned : Aligned width number shown) :
      Lists width caretLine number segment ⟨.plain, ' ' :: (shown ++ " │ ".toList ++ segment)⟩

variable {width caretLine number : Nat}

theorem aligned_alignedNumber (fits : (Nat.toDigits 10 number).length ≤ width) :
    Aligned width number (alignedNumber width number) := by
  rw [alignedNumber, Text.decimal_eq_toDigits]
  constructor
  · simp only [List.length_append, List.length_replicate]
    omega
  · refine ⟨_, rfl, ?_⟩
    intro space member
    exact (List.mem_replicate.mp member).2

theorem lists_listedLine (fits : (Nat.toDigits 10 number).length ≤ width) (segment : Text) :
    Lists width caretLine number segment (listedLine width caretLine number segment) := by
  have aligned := aligned_alignedNumber fits
  unfold listedLine
  split
  case isTrue here => exact .marked here aligned
  case isFalse elsewhere => exact .plain elsewhere aligned

theorem lists_listFrom {segments : List Text}
    (fits : ∀ later, later < number + segments.length →
      (Nat.toDigits 10 later).length ≤ width) :
    List.Forall₂ (fun listed line => Lists width caretLine listed.2 listed.1 line)
      (segments.zipIdx number) (listFrom width caretLine number segments) := by
  induction segments generalizing number with
  | nil => exact .nil
  | cons segment segments induction =>
      rw [List.length_cons] at fits
      refine .cons (lists_listedLine (fits number (by omega)) segment) (induction ?_)
      intro later below
      exact fits later (by omega)

theorem tone_listedLine (width caretLine number : Nat) (segment : Text) :
    (listedLine width caretLine number segment).tone = .link ↔ number = caretLine := by
  unfold listedLine
  split <;> simp_all

theorem countP_listFrom (width caretLine number : Nat) (segments : List Text) :
    (listFrom width caretLine number segments).countP (fun line => line.tone = .link) =
      if number ≤ caretLine ∧ caretLine < number + segments.length then 1 else 0 := by
  induction segments generalizing number with
  | nil => simp [listFrom]
  | cons segment segments induction =>
      rw [listFrom, List.countP_cons, induction, List.length_cons]
      simp only [tone_listedLine, decide_eq_true_eq]
      split <;> split <;> split <;> omega

theorem bufferView_of_text {buffer : Buffer} (nonempty : buffer.text ≠ []) :
    bufferView buffer =
      listFrom (Nat.toDigits 10 (listedLines buffer.text).length).length
        buffer.caretPosition.line 1 (listedLines buffer.text) := by
  have filled : buffer.isEmpty = false := by simpa [Buffer.isEmpty] using nonempty
  rw [bufferView, filled, ← Text.decimal_eq_toDigits]
  rfl

/-- The status line tells a number of lines, behind the source. -/
def TellsLineCount (surroundings : Surroundings) (app : App) (count : Nat) : Prop :=
  ∃ rest, (app.statusLine surroundings).text =
    "📄 ".toList ++ (app.source.map (shortPath surroundings.home)).getD "untitled".toList ++
      "  │  ".toList ++ (Nat.toDigits 10 count ++ " line(s)".toList) ++ "  │  ".toList ++ rest

theorem tellsLineCount (surroundings : Surroundings) (app : App) :
    TellsLineCount surroundings app (Text.lines app.buffer.text).length := by
  unfold TellsLineCount App.statusLine App.lineCount App.statusBar
  rw [← Text.decimal_eq_toDigits]
  simp only [List.cons_append, Text.joinWith, List.append_assoc]
  exact ⟨_, rfl⟩

/-- The listing of a buffer with text loses nothing but a line feed at the end of the text.  It
has as many lines as the status line tells, numbered from one on in a common width, and of
these the line of the caret alone is marked. -/
theorem listing_lossless {buffer : Buffer} (reached : Buffer.Reached buffer)
    (nonempty : buffer.text ≠ []) :
    ∃ segments : List Text,
      (Text.Body buffer.text (['\n'].intercalate segments) ∧
        ∀ segment ∈ segments, '\n' ∉ segment) ∧
      (segments.length = (Text.lines buffer.text).length ∧
        ∀ (surroundings : Surroundings) (app : App), app.buffer = buffer →
          TellsLineCount surroundings app segments.length) ∧
      List.Forall₂
        (fun listed line => Lists (Nat.toDigits 10 segments.length).length
          buffer.caretPosition.line listed.2 listed.1 line)
        (segments.zipIdx 1) (bufferView buffer) ∧
      (bufferView buffer).countP (fun line => line.tone = .link) =
        if buffer.text.getLast? = some '\n' ∧ buffer.caret = buffer.text.length then 0
        else 1 := by
  have isBody := Text.body_dropOneTrailing buffer.text
  have total : (Text.lines buffer.text).length = (listedLines buffer.text).length :=
    isBody.length_lines nonempty
  have onBody : buffer.caretPosition.line ≤ (listedLines buffer.text).length ↔
      ¬ (buffer.text.getLast? = some '\n' ∧ buffer.caret = buffer.text.length) :=
    Position.line_ofOffset_le_iff isBody reached.caret_le
  rw [bufferView_of_text nonempty]
  refine ⟨listedLines buffer.text, ⟨?_, ?_⟩, ⟨total.symm, ?_⟩, ?_, ?_⟩
  · rwa [listedLines, Text.segments_eq_splitOn, List.intercalate_splitOn]
  · intro segment member
    exact Text.not_mem_of_mem_segments member
  · rintro surroundings app rfl
    rw [← total]
    exact tellsLineCount surroundings app
  · apply lists_listFrom
    intro later below
    exact Text.length_toDigits_mono (by omega)
  · rw [countP_listFrom]
    by_cases ended : buffer.text.getLast? = some '\n' ∧ buffer.caret = buffer.text.length
    · rw [if_pos ended, if_neg]
      rintro ⟨-, below⟩
      exact onBody.mp (by omega) ended
    · have listed := onBody.mpr ended
      have positive := (Buffer.within_caretPosition reached.caret_le).line_pos
      rw [if_neg ended, if_pos ⟨positive, by omega⟩]

/-- Ten lines, of which the first ends in a carriage return and the last is blank. -/
def tenLines : Buffer :=
  (Buffer.empty.apply (.setText ("a\r\n".toList ++ List.replicate 9 '\n'))).apply
    (.moveTo ⟨10, 1⟩)

/-- The caret is on the last line, before the line feed that closes it. -/
theorem listing_lossless_ten_lines :
    Buffer.Reached tenLines ∧ tenLines.text ≠ [] ∧
      (∃ segments : List Text, segments.length = 10 ∧
        Text.Body tenLines.text (['\n'].intercalate segments) ∧
        List.Forall₂ (fun listed line => Lists 2 10 listed.2 listed.1 line)
          (segments.zipIdx 1) (bufferView tenLines)) ∧
      (bufferView tenLines).countP (fun line => line.tone = .link) = 1 := by
  have reached : Buffer.Reached tenLines := (Buffer.Reached.empty.apply _).apply _
  have nonempty : tenLines.text ≠ [] := by decide
  obtain ⟨segments, ⟨isBody, -⟩, ⟨total, -⟩, lists, marked⟩ := listing_lossless reached nonempty
  have ten : segments.length = 10 := total
  have caretLine : tenLines.caretPosition.line = 10 := by decide
  have before : tenLines.caret ≠ tenLines.text.length := by decide
  rw [ten, caretLine] at lists
  rw [if_neg fun ended => before ended.2] at marked
  exact ⟨reached, nonempty, ⟨segments, ten, isBody, lists⟩, marked⟩

end View

end ScriptDesk
